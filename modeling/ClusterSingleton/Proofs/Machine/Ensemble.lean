import Mathlib.Algebra.GroupWithZero.Nat
import Mathlib.Algebra.Order.BigOperators.Group.List
import Mathlib.Algebra.Order.Group.Nat
import ClusterSingleton.Proofs.Machine.History

/-!
# Machines that write to one another

An ensemble is a number of machines and the messages between them that are still on their way. Each
step hands one machine one event. A message may be late, out of order or lost, but each one that
arrives was sent and arrives once; all other events come as they like. `sent_eq` counts: what was
sent has arrived or is on its way.
-/

namespace ClusterSingleton

/-- A machine of an ensemble, by what it was created with and what it was handed so far. -/
structure Site : Type where
  profile : Profile
  inputs : List Input
deriving DecidableEq, Repr

namespace Site

def self (n : Site) : Address := n.profile.self

def machine (n : Site) : Machine := n.profile.machine.run n.inputs

def log (n : Site) : List Entry := n.profile.machine.history n.inputs

def hand (n : Site) (x : Input) : Site := { n with inputs := n.inputs ++ [x] }

/-- The step that the site takes when it is handed an input. -/
def entry (n : Site) (x : Input) : Entry := ⟨x, n.machine⟩

theorem log_hand (n : Site) (x : Input) : (n.hand x).log = n.log ++ [n.entry x] :=
  Machine.history_snoc _ _ _

end Site

/-- A message on its way. -/
structure Parcel : Type where
  sender : Address
  target : Address
  message : Message
deriving DecidableEq, Repr

/-- The messages that a site sends in a step. -/
def Site.posts (n : Site) (x : Input) : List Parcel :=
  (n.entry x).turn.sent.map fun p => ⟨n.self, p.1, p.2⟩

structure Ensemble : Type where
  sites : List Site
  mail : List Parcel
deriving DecidableEq, Repr

namespace Ensemble

/-- Machines that were just created. -/
def start (ps : List Profile) : Ensemble := ⟨ps.map (fun p => ⟨p, []⟩), []⟩

/-- Hands an input to the site at a place. A message is handed over only if it is on its way to the
site, and uses up that one. -/
def step? (c : Ensemble) (i : Nat) (x : Input) : Option Ensemble :=
  match c.sites[i]? with
  | none => none
  | some n =>
      match x.event with
      | .peer sender message =>
          if ⟨sender, n.self, message⟩ ∈ c.mail then
            some ⟨c.sites.set i (n.hand x), c.mail.erase ⟨sender, n.self, message⟩ ++ n.posts x⟩
          else none
      | _ => some ⟨c.sites.set i (n.hand x), c.mail ++ n.posts x⟩

/-- Takes one step after another; each names the place of its site. -/
def run? (c : Ensemble) (steps : List (Nat × Input)) : Option Ensemble :=
  steps.foldlM (fun c s => c.step? s.1 s.2) c

theorem run?_snoc {c c' : Ensemble} {steps : List (Nat × Input)} {s : Nat × Input}
    (h : c.run? (steps ++ [s]) = some c') :
    ∃ d, c.run? steps = some d ∧ d.step? s.1 s.2 = some c' := foldlM_snoc h

/-- **What one step does**: one site is handed the input, the others stay as they are, and a message
that was handed over is no longer on its way. -/
theorem step?_cases {c c' : Ensemble} {i : Nat} {x : Input} (h : c.step? i x = some c') :
    ∃ left n right rest, c.sites = left ++ n :: right ∧ c'.sites = left ++ n.hand x :: right ∧
      c'.mail = rest ++ n.posts x ∧
      ((rest = c.mail ∧ ∀ sender message, x.event ≠ .peer sender message) ∨
        ∃ sender message first last, x.event = .peer sender message ∧
          c.mail = first ++ ⟨sender, n.self, message⟩ :: last ∧ rest = first ++ last) := by
  unfold step? at h
  split at h
  next => cases h
  next n hn =>
    obtain ⟨hi, rfl⟩ := List.getElem?_eq_some_iff.mp hn
    have sites : c.sites = c.sites.take i ++ c.sites[i] :: c.sites.drop (i + 1) := by simp
    have moved : c.sites.set i (c.sites[i].hand x) =
        c.sites.take i ++ c.sites[i].hand x :: c.sites.drop (i + 1) := by
      rw [List.set_eq_take_append_cons_drop, if_pos hi]
    split at h
    next sender message event =>
      split at h
      next sent =>
        obtain rfl := Option.some.inj h
        obtain ⟨first, last, -, mail, rest⟩ := List.exists_erase_eq sent
        exact ⟨_, _, _, _, sites, moved, rfl,
          Or.inr ⟨sender, message, first, last, event, mail, rest⟩⟩
      next => cases h
    next event =>
      obtain rfl := Option.some.inj h
      exact ⟨_, _, _, _, sites, moved, rfl, Or.inl ⟨rfl, event⟩⟩

/-! ## Counting messages -/

/-- A number that each site has, added up. -/
def total (c : Ensemble) (f : Site → Nat) : Nat := (c.sites.map f).sum

theorem total_le {c : Ensemble} {f g : Site → Nat} (h : ∀ n ∈ c.sites, f n ≤ g n) :
    c.total f ≤ c.total g := List.sum_le_sum h

theorem total_add (c : Ensemble) (f g : Site → Nat) :
    c.total (fun n => f n + g n) = c.total f + c.total g := List.sum_map_add

/-- A number that grows with the steps of its site grows by what the step of one site adds. -/
theorem total_hand {c c' : Ensemble} {left right : List Site} {n n' : Site} {f : Site → Nat}
    {d : Nat} (hc : c.sites = left ++ n :: right) (hc' : c'.sites = left ++ n' :: right)
    (grows : f n' = f n + d) : c'.total f = c.total f + d := by
  unfold total
  rw [hc, hc']
  simp only [List.map_append, List.map_cons, List.sum_append, List.sum_cons, grows]
  omega

end Ensemble

/-- Whether the step handles such a message. -/
def Entry.receives (e : Entry) (message : Message) : Bool :=
  match e.event with
  | .peer _ other => other == message
  | _ => false

/-- How often a site sent a message so far. -/
def Site.sentCount (message : Message) (n : Site) : Nat :=
  (n.log.flatMap Entry.messages).count message

/-- How often a site handled a message so far. -/
def Site.receivedCount (message : Message) (n : Site) : Nat :=
  n.log.countP (fun e => e.receives message)

namespace Site

variable (n : Site) (x : Input) (message : Message)

theorem sentCount_hand :
    (n.hand x).sentCount message = n.sentCount message + (n.entry x).messages.count message := by
  unfold sentCount
  rw [log_hand, List.flatMap_append, List.count_append]
  simp

theorem receivedCount_hand :
    (n.hand x).receivedCount message =
      n.receivedCount message + if (n.entry x).receives message then 1 else 0 := by
  unfold receivedCount
  rw [log_hand, List.countP_append, List.countP_singleton]

/-- The parcels that a site posts carry the messages that it sends. -/
theorem count_posts :
    (n.posts x).countP (fun p => p.message == message) =
      (n.entry x).messages.count message := by
  unfold posts Turn.sent Entry.messages Entry.effects
  rw [List.countP_map, List.countP_filterMap, List.count_filterMap]
  congr 1
  funext e
  cases e with
  | send a other => rfl
  | _ => rfl

end Site

namespace Ensemble

/-- What was sent has been handled or is still on its way. -/
def Balanced (c : Ensemble) (message : Message) : Prop :=
  c.total (Site.sentCount message) =
    c.total (Site.receivedCount message) + c.mail.countP (fun p => p.message == message)

theorem balanced_start (ps : List Profile) (message : Message) :
    (start ps).Balanced message := by
  unfold Balanced total start
  induction ps with
  | nil => rfl
  | cons p ps ih => simpa [Site.sentCount, Site.receivedCount, Site.log] using ih

theorem balanced_step {c c' : Ensemble} {i : Nat} {x : Input} {message : Message}
    (h : c.Balanced message) (hs : c.step? i x = some c') : c'.Balanced message := by
  obtain ⟨left, n, right, rest, hc, hc', mail, taken⟩ := step?_cases hs
  have sent := total_hand hc hc' (n.sentCount_hand x message)
  have received := total_hand hc hc' (n.receivedCount_hand x message)
  have posted := n.count_posts x message
  unfold Balanced at h ⊢
  rw [sent, received, mail, List.countP_append, posted]
  -- a message that is handled leaves the mail; any other input leaves the mail as it is
  rcases taken with ⟨rfl, local_⟩ | ⟨sender, other, first, last, event, before, rfl⟩
  · have none : (n.entry x).receives message = false := by
      unfold Entry.receives Site.entry
      cases hx : x.event with
      | peer a other => exact absurd hx (local_ a other)
      | _ => rfl
    rw [none]
    simp only [Bool.false_eq_true, if_false]
    omega
  · have one : (n.entry x).receives message = (other == message) := by
      unfold Entry.receives Site.entry
      rw [event]
    rw [before, List.countP_append, List.countP_cons] at h
    dsimp only at h
    rw [one, List.countP_append]
    omega

/-- **Messages are conserved.** In every run what was sent was handled once or is on its way. -/
theorem sent_eq {ps : List Profile} {steps : List (Nat × Input)} {c : Ensemble}
    (h : (start ps).run? steps = some c) (message : Message) : c.Balanced message := by
  induction steps using List.reverseRecOn generalizing c with
  | nil =>
      obtain rfl := Option.some.inj h
      exact balanced_start ps message
  | append_singleton steps s ih =>
      obtain ⟨d, hd, hs⟩ := run?_snoc h
      exact balanced_step (ih hd) hs

end Ensemble

end ClusterSingleton
