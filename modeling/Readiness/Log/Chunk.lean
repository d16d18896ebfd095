import Readiness.Text.Utf8

/-!
# Chunks of container output

A container writes on two channels. What it writes arrives in chunks, each from one channel and cut
anywhere, in the middle of a line or of a character.

Three outlets carry chunks on: one for each channel, and the combined outlet for both in the order
of arrival. `PerOutlet` keeps something for each of them.
-/

namespace Readiness

/-- Where a container writes. -/
inductive Channel
  | stdout
  | stderr
  deriving DecidableEq, Repr

def Channel.name : Channel → String
  | stdout => "stdout"
  | stderr => "stderr"

/-- A piece of output. -/
structure Chunk where
  channel : Channel
  bytes : Bytes
  deriving DecidableEq, Repr

/-- The bytes of some chunks, one after the other. -/
def Chunk.join (cs : List Chunk) : Bytes := cs.flatMap Chunk.bytes

/-- Which channels are wanted. -/
structure Selection where
  stdout : Bool := true
  stderr : Bool := true
  deriving DecidableEq, Repr

def Selection.wants (s : Selection) : Channel → Bool
  | .stdout => s.stdout
  | .stderr => s.stderr

/-- Where chunks are carried on to. -/
inductive Outlet
  | stdout
  | stderr
  | combined
  deriving DecidableEq, Repr

/-- The outlet that carries a channel alone. -/
def Channel.outlet : Channel → Outlet
  | stdout => .stdout
  | stderr => .stderr

/-- Whether an outlet carries chunks of a channel. -/
def Outlet.carries : Outlet → Channel → Bool
  | combined, _ => true
  | stdout, ch => ch == .stdout
  | stderr, ch => ch == .stderr

/-- Something kept for each outlet. -/
structure PerOutlet (α : Type) where
  stdout : α
  stderr : α
  combined : α
  deriving DecidableEq, Repr

namespace PerOutlet

variable {α β : Type}

def all (a : α) : PerOutlet α := ⟨a, a, a⟩

def get (p : PerOutlet α) : Outlet → α
  | .stdout => p.stdout
  | .stderr => p.stderr
  | .combined => p.combined

def set (p : PerOutlet α) (a : α) : Outlet → PerOutlet α
  | .stdout => { p with stdout := a }
  | .stderr => { p with stderr := a }
  | .combined => { p with combined := a }

def modify (p : PerOutlet α) (o : Outlet) (f : α → α) : PerOutlet α := p.set (f (p.get o)) o

def map (f : α → β) (p : PerOutlet α) : PerOutlet β := ⟨f p.stdout, f p.stderr, f p.combined⟩

@[simp] theorem get_all (a : α) (o : Outlet) : (all a).get o = a := by cases o <;> rfl

@[simp] theorem get_set_self (p : PerOutlet α) (a : α) (o : Outlet) : (p.set a o).get o = a := by
  cases o <;> rfl

theorem get_set_of_ne (p : PerOutlet α) (a : α) {o o' : Outlet} (h : o' ≠ o) :
    (p.set a o).get o' = p.get o' := by
  cases o <;> cases o' <;> simp_all [get, set]

/-- What one outlet is given is read back from it, and from no other. -/
theorem get_set (p : PerOutlet α) (a : α) (o o' : Outlet) :
    (p.set a o).get o' = if o' = o then a else p.get o' := by
  split
  · next h => rw [h, get_set_self]
  · next h => exact get_set_of_ne p a h

@[simp] theorem get_map (f : α → β) (p : PerOutlet α) (o : Outlet) :
    (p.map f).get o = f (p.get o) := by cases o <;> rfl

@[ext] theorem ext_get {p q : PerOutlet α} (h : ∀ o, p.get o = q.get o) : p = q := by
  cases p; cases q
  have h₁ := h .stdout; have h₂ := h .stderr; have h₃ := h .combined
  simp only [get] at h₁ h₂ h₃
  subst h₁ h₂ h₃; rfl

end PerOutlet

end Readiness
