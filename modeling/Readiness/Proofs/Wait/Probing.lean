import Mathlib.Algebra.Order.Floor.Div
import Readiness.Proofs.Wait.Rounds
import Readiness.Wait.Probing

/-!
# Pinging a server with a script

A wait for a ping sends one request for every check. The server answers as scripted, the last response
over and over (`Network.response`), so what is left of the script and what has been sent are a matter
of how many requests there were (`Network.sent`).

A response decides if it says more than "not yet" (`HttpPing.decides`): the server does not implement
the method, or the status lies between the bounds of those accepted
(`HttpPing.decides_eq_true_iff`). The wait ends at the first that does, if there is one among those
that there is time for, and with a timeout otherwise (`Probing.run_of_first`,
`Probing.run_of_none`). It leaves behind a ping without a client and the rest of the script, so that
the next wait goes as with a new ping (`Probing.run_script`).
-/

namespace Readiness

/-! ### The server -/

namespace Network

/-- The response to a request to come, counted from 0. -/
def response (n : Network) (i : Nat) : Response :=
  (n.script[min i (n.script.length - 1)]?).getD .failure

/-- The network when a request has been sent some times. -/
def sent (n : Network) (r : Request) (k : Nat) : Network where
  script := n.script.drop (min k (n.script.length - 1))
  requests := n.requests ++ List.replicate k r

variable {n : Network} {r : Request}

theorem sent_zero (n : Network) (r : Request) : n.sent r 0 = n := by
  rw [sent, Nat.zero_min, List.drop_zero, List.replicate_zero, List.append_nil]

/-- The last response of a script stays there for the next request. -/
theorem send_of_last {a : Response} (h : n.script = [a]) :
    n.send r = (a, { n with requests := n.requests ++ [r] }) := by
  rw [send, h]

/-- A response with others behind it is given once. -/
theorem send_of_next {a b : Response} {rest : List Response} (h : n.script = a :: b :: rest) :
    n.send r = (a, { script := b :: rest, requests := n.requests ++ [r] }) := by
  rw [send, h]

/-- Where somebody listens, every request gets the response whose turn it is. -/
theorem send_sent (hs : n.script ≠ []) (r : Request) (k : Nat) :
    (n.sent r k).send r = (n.response k, n.sent r (k + 1)) := by
  have hlen : 0 < n.script.length := List.length_pos_iff.2 hs
  have hk : min k (n.script.length - 1) < n.script.length := by omega
  have hscript : (n.sent r k).script =
      n.response k :: n.script.drop (min k (n.script.length - 1) + 1) := by
    rw [response, List.getElem?_eq_getElem hk, Option.getD_some]
    exact List.drop_eq_getElem_cons hk
  have hrequests : (n.sent r k).requests ++ [r] = (n.sent r (k + 1)).requests := by
    simp only [sent, List.append_assoc, List.replicate_succ']
  rcases Nat.lt_or_ge (k + 1) n.script.length with hlt | hge
  · -- There is one behind it.
    have hmin : min k (n.script.length - 1) + 1 = min (k + 1) (n.script.length - 1) := by omega
    have hnext := List.drop_eq_getElem_cons (l := n.script)
      (i := min (k + 1) (n.script.length - 1)) (by omega)
    rw [hmin, hnext] at hscript
    rw [send_of_next hscript, ← hnext, hrequests]
    rfl
  · -- It is the last, and stays.
    have hend : min k (n.script.length - 1) + 1 = n.script.length := by omega
    have hmin : min k (n.script.length - 1) = min (k + 1) (n.script.length - 1) := by omega
    rw [hend, List.drop_length] at hscript
    rw [send_of_last hscript, hrequests]
    simp only [sent, hmin]

end Network

/-! ### The ping -/

namespace HttpPing

/-- Whether a response says more than that it is not time yet. -/
def decides (p : HttpPing) : Response → Bool
  | .failure => false
  | .status code => code = notImplemented || p.statuses.contains code

/-- What a wait comes to by a response that decides. -/
def verdict (p : HttpPing) (r : Response) : Outcome :=
  if r = .status notImplemented then .failed (.misconfigured (.methodRefused p.method p.rawUrl))
  else .ready

variable {p : HttpPing} {r : Response}

/-- A failed request decides nothing, and a status does if it refuses the method or is accepted. -/
theorem decides_eq_true_iff : p.decides r = true ↔ ∃ code, r = .status code ∧
    (code = notImplemented ∨ p.statuses.min ≤ code ∧ code ≤ p.statuses.max) := by
  cases r with
  | failure => simp [decides]
  | status code => simp [decides, StatusRange.contains_iff]

theorem judge_of_not_decides (h : p.decides r = false) : p.judge r = .ok false := by
  cases r with
  | failure => rfl
  | status code =>
    rw [decides, Bool.or_eq_false_iff, decide_eq_false_iff_not] at h
    rw [judge, if_neg h.1, h.2]

/-- A wait ends as the first response that decides says. -/
theorem decided?_judge (h : p.decides r = true) :
    Engine.decided? (p.judge r) = some (p.verdict r) := by
  obtain ⟨code, rfl, hd⟩ := decides_eq_true_iff.1 h
  rw [judge, verdict]
  by_cases hc : code = notImplemented
  · rw [if_pos hc, if_pos (congrArg Response.status hc)]
    rfl
  · rw [if_neg hc, if_neg (mt Response.status.inj hc),
      StatusRange.contains_iff.2 (hd.resolve_left hc)]
    rfl

end HttpPing

/-! ### The wait -/

namespace Probing

/-- The request that is sent. -/
def request (p : Probing) : Request := ⟨p.ping.method, p.ping.url⟩

/-- The world behind a wait whose last check came some rounds after its first. -/
def behind (p : Probing) (e : Engine) (k : Nat) : Probing where
  now := p.now + k * e.poll
  ping := p.ping.release
  network := p.network.sent p.request (k + 1)

/-- A new ping to the server as it is now. -/
def anew (p : Probing) : Probing where
  ping := { p.ping with connected := false }
  network := { script := p.network.script }

/-- The world behind a wait that was made with a new ping, if it was made later than another one. -/
def later (p q : Probing) : Probing where
  now := q.now + p.now
  ping := p.ping
  network := { p.network with requests := q.network.requests ++ p.network.requests }

variable {e : Engine} {p : Probing} {timeout : Nat} {description : String} {k : Nat}

/-- The world behind a wait is that behind a wait with a new ping, made later. -/
theorem behind_anew (e : Engine) (p : Probing) (k : Nat) :
    (p.anew.behind e k).later p = p.behind e k := by
  simp only [later, behind, anew, request, Network.sent, HttpPing.release, Nat.zero_add,
    List.nil_append]

/-- A script never runs out. -/
theorem script_behind_ne_nil (hs : p.network.script ≠ []) (e : Engine) (k : Nat) :
    (p.behind e k).network.script ≠ [] := by
  have hlen : 0 < p.network.script.length := List.length_pos_iff.2 hs
  rw [← List.length_pos_iff, behind, Network.sent, List.length_drop]
  omega

/-- The last round is the one in which the timeout is over. -/
theorem lastRound_eq_ceilDiv (e : Engine) (timeout : Nat) :
    e.lastRound timeout = timeout ⌈/⌉ e.poll := by
  have hp := e.poll_pos
  rw [Nat.ceilDiv_eq_add_pred_div, Engine.lastRound, Nat.add_sub_assoc hp]

/-- Some first response decides, or none up to the last round does. -/
theorem first_or_none (p : Probing) (last : Nat) :
    (∃ k ≤ last, (∀ i < k, p.ping.decides (p.network.response i) = false) ∧
      p.ping.decides (p.network.response k) = true) ∨
    ∀ i ≤ last, p.ping.decides (p.network.response i) = false := by
  obtain ⟨k, hk, hbefore, hfirst⟩ | hnone :=
    first_lt_or_none (fun i => p.ping.decides (p.network.response i) = true) (last + 1)
  · exact .inl ⟨k, Nat.le_of_lt_succ hk, fun i hi => Bool.eq_false_iff.2 (hbefore i hi), hfirst⟩
  · exact .inr fun i hi => Bool.eq_false_iff.2 (hnone i (Nat.lt_succ_of_le hi))

section Wait

variable (hs : p.network.script ≠ [])
include hs

/-- A check sends one request, and keeps the client. -/
theorem check_sent (t k : Nat) (connected : Bool) :
    check { now := t, ping := { p.ping with connected }, network := p.network.sent p.request k } =
      (p.ping.judge (p.network.response k),
        { now := t
          ping := { p.ping with connected := true }
          network := p.network.sent p.request (k + 1) }) := by
  have hsend : (p.network.sent p.request k).send ⟨p.ping.method, p.ping.url⟩ = _ :=
    Network.send_sent hs p.request k
  simp only [check, HttpPing.check, hsend]
  rfl

/-- The check of a round gets the response whose turn it is. -/
theorem check_round (k : Nat) : condition.check (e.round condition p k) =
    (p.ping.judge (p.network.response k),
      { now := p.now + k * e.poll
        ping := { p.ping with connected := true }
        network := p.network.sent p.request (k + 1) }) := by
  induction k with
  | zero =>
    have h := check_sent hs p.now 0 p.ping.connected
    rw [Network.sent_zero] at h
    rw [Nat.zero_mul]
    exact h
  | succ k ih =>
    rw [Engine.round, ih]
    have h := check_sent hs (p.now + k * e.poll + e.poll) (k + 1) true
    rw [Nat.succ_mul, ← Nat.add_assoc]
    exact h

/-- A check whose response decides nothing says no. -/
theorem check_silent (h : p.ping.decides (p.network.response k) = false) :
    (condition.check (e.round condition p k)).1 = .ok false := by
  rw [check_round hs]
  exact HttpPing.judge_of_not_decides h

/-- The wait ends at the first response that decides. -/
theorem run_of_first (hk : k ≤ e.lastRound timeout)
    (hbefore : ∀ i < k, p.ping.decides (p.network.response i) = false)
    (hfirst : p.ping.decides (p.network.response k) = true) :
    e.run condition timeout description none p =
      (p.ping.verdict (p.network.response k), p.behind e k) := by
  have hsilent := fun i hi => check_silent (e := e) hs (hbefore i hi)
  have hdecided : Engine.decided? (condition.check (e.round condition p k)).1 =
      some (p.ping.verdict (p.network.response k)) := by
    rw [check_round hs]
    exact HttpPing.decided?_judge hfirst
  rw [Engine.run_of_decided hk hsilent hdecided, check_round hs]
  rfl

/-- Without one in time it ends with a timeout. -/
theorem run_of_none
    (hnone : ∀ i ≤ e.lastRound timeout, p.ping.decides (p.network.response i) = false) :
    e.run condition timeout description none p =
      (.failed (.timeout description p.ping.describe (.ofMillis timeout)),
        p.behind e (e.lastRound timeout)) := by
  rw [Engine.run_of_silent fun i hi => check_silent hs (hnone i hi), check_round hs]
  rfl

/-- The wait goes as with a new ping. -/
theorem run_anew (e : Engine) (timeout : Nat) (description : String) :
    e.run condition timeout description none p =
      Prod.map id (·.later p) (e.run condition timeout description none p.anew) := by
  obtain ⟨k, hk, hbefore, hfirst⟩ | hnone := first_or_none p (e.lastRound timeout)
  · have hnew : e.run condition timeout description none p.anew = _ :=
      run_of_first (p := p.anew) hs hk hbefore hfirst
    rw [run_of_first hs hk hbefore hfirst, hnew, Prod.map_apply, behind_anew]
    rfl
  · have hnew : e.run condition timeout description none p.anew = _ :=
      run_of_none (p := p.anew) hs hnone
    rw [run_of_none hs hnone, hnew, Prod.map_apply, behind_anew]
    rfl

/-- A wait ends behind one of its rounds. -/
theorem exists_behind (e : Engine) (timeout : Nat) (description : String) :
    ∃ k, (e.run condition timeout description none p).2 = p.behind e k := by
  obtain ⟨k, hk, hbefore, hfirst⟩ | hnone := first_or_none p (e.lastRound timeout)
  · exact ⟨k, by rw [run_of_first hs hk hbefore hfirst]⟩
  · exact ⟨_, by rw [run_of_none hs hnone]⟩

/-- A wait for a ping to a server with a script, whatever it accepts. There is time for as many checks
    behind the first as the poll interval fits into the timeout, rounded up.

* If the first response that decides is that to request `k`, counted from 0, and there is time for it,
  the wait ends with it, `k + 1` requests having been sent: with the method refused if the server does
  not implement it, even if that status is accepted, and well otherwise. A request that fails decides
  nothing.
* If there is no such response in time, the wait ends with a timeout when there is no time left, and
  has sent one request for every check.
* It leaves no client behind, and whatever wait comes next goes as one with a new ping to a server
  with the rest of the script, only later. -/
theorem run_script (e : Engine) (timeout : Nat) (description : String) :
    let last := timeout ⌈/⌉ e.poll
    let r := e.run condition timeout description none p
    (∀ k ≤ last, (∀ i < k, p.ping.decides (p.network.response i) = false) →
      p.ping.decides (p.network.response k) = true →
      r = (p.ping.verdict (p.network.response k), p.behind e k)) ∧
    ((∀ i ≤ last, p.ping.decides (p.network.response i) = false) →
      r = (.failed (.timeout description p.ping.describe (.ofMillis timeout)), p.behind e last)) ∧
    r.2.ping = { p.ping with connected := false } ∧
    ∀ (e' : Engine) (timeout' : Nat) (description' : String),
      let again := e'.run condition timeout' description' none
      again r.2 = Prod.map id (·.later r.2) (again r.2.anew) := by
  intro last r
  have hlast : e.lastRound timeout = last := lastRound_eq_ceilDiv e timeout
  obtain ⟨k, hk⟩ : ∃ k, r.2 = p.behind e k := exists_behind hs e timeout description
  refine ⟨fun k hk hbefore hfirst => run_of_first hs (hlast ▸ hk) hbefore hfirst, fun hnone => ?_,
    by rw [hk]; rfl, fun e' timeout' description' => ?_⟩
  · rw [← hlast] at hnone ⊢
    exact run_of_none hs hnone
  · rw [hk]
    exact run_anew (script_behind_ne_nil hs e k) e' timeout' description'

end Wait

/-- Three waits for a ping that accepts the status 501. There is no time in the first for the response
    that has it, and the second ends with that at once. The third ends well, with the last status of
    the range. -/
theorem run_script_refused :
    let url : Url := { scheme := "http", host := some (.domain "h"), path := .segments [""] }
    let p : Probing :=
      { ping := { rawUrl := "http://h", url, statuses := ⟨500, 599⟩ }
        network := { script := [.failure, .status 404, .status 501, .status 599] } }
    let run (timeout : Nat) := Engine.run ⟨3, by decide⟩ condition timeout "wait" none
    (run 2 p).1 = .failed (.timeout "wait" "http ping to 'http://h' with method 'HEAD'" (.ofMillis 2)) ∧
      (run 2 p).2.network.requests = [⟨.head, url⟩, ⟨.head, url⟩] ∧
      (run 2 p).2.now = 3 ∧
      (run 5 (run 2 p).2).1 = .failed (.misconfigured (.methodRefused .head "http://h")) ∧
      (run 5 (run 2 p).2).2.network.requests = [⟨.head, url⟩, ⟨.head, url⟩, ⟨.head, url⟩] ∧
      (run 5 (run 5 (run 2 p).2).2).1 = .ready := by
  intro url p run
  have hs : p.network.script ≠ [] := List.cons_ne_nil _ _
  obtain ⟨-, htimeout, -, hagain⟩ := run_script hs ⟨3, by decide⟩ 2 "wait"
  have hfirst : run 2 p = _ := htimeout fun
    | 0, _ => rfl
    | 1, _ => rfl
  have hrest : (p.behind ⟨3, by decide⟩ 1).anew.network.script ≠ [] := List.cons_ne_nil _ _
  obtain ⟨hrefused, -⟩ := run_script hrest ⟨3, by decide⟩ 5 "wait"
  have hsecond : run 5 (run 2 p).2 = Prod.map id (·.later (run 2 p).2) (run 5 (run 2 p).2.anew) :=
    hagain ⟨3, by decide⟩ 5 "wait"
  have hnew : run 5 (p.behind ⟨3, by decide⟩ 1).anew = _ := hrefused 0 (Nat.zero_le _) nofun rfl
  have htwo : run 2 p = (_, p.behind ⟨3, by decide⟩ 1) := hfirst
  rw [htwo] at hsecond ⊢
  rw [hnew] at hsecond
  rw [hsecond]
  let q : Probing := ((p.behind ⟨3, by decide⟩ 1).anew.behind ⟨3, by decide⟩ 0).later
    (p.behind ⟨3, by decide⟩ 1)
  obtain ⟨hready, -⟩ := run_script (p := q) (List.cons_ne_nil _ _) ⟨3, by decide⟩ 5 "wait"
  have hdecides : q.ping.decides (q.network.response 0) = true :=
    HttpPing.decides_eq_true_iff.2 ⟨599, rfl, .inr (by decide)⟩
  have hthird : run 5 q = _ := hready 0 (Nat.zero_le _) nofun hdecides
  exact ⟨by decide, rfl, rfl, rfl, rfl, congrArg Prod.fst hthird⟩

end Probing

end Readiness
