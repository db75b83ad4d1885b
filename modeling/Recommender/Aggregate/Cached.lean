import Recommender.Aggregate.Provider
import Recommender.Memo.Basic
import Recommender.Metric.Tally

/-!
# Remembered lookups

One memo per family of lookups stands in front of a provider.  A lookup reaches the provider only if
its key is not remembered; a failed lookup is not remembered.  User names are resolved by the
provider every time.
-/

namespace Recommender

/-- The memos of the families. -/
structure Caches where
  memo : Family → Memo Json := fun _ => {}

instance : Inhabited Caches := ⟨{}⟩

namespace Caches

/-- Put a memo in the place of the one of a family. -/
def set (c : Caches) (f : Family) (m : Memo Json) : Caches :=
  ⟨fun g => if g = f then m else c.memo g⟩

/-- Answer a lookup from memory, or by a provider. -/
def answer {σ : Type} (provider : Lookup → σ → Except Failure Json × σ) (l : Lookup)
    (c : Caches) (s : σ) : Except Failure Json × Caches × σ :=
  match (c.memo l.family).fetch l.key (provider l) s with
  | (result, m, s) => (result, c.set l.family m, s)

/-- Resolve a user name by a provider. -/
def resolve {σ : Type} (provider : Json → σ → Except Failure (Option Uuid) × σ) (name : Json)
    (c : Caches) (s : σ) : Except Failure (Option Uuid) × Caches × σ :=
  match provider name s with
  | (result, s) => (result, c, s)

/-- Clear the memos of some families; the result is the number of values forgotten. -/
def clearAll (c : Caches) : List Family → Nat × Caches
  | [] => (0, c)
  | f :: rest =>
    let (removed, m) := (c.memo f).clear
    let (others, c) := (c.set f m).clearAll rest
    (removed + others, c)

/-- Clear every memo; the result is the number of values forgotten. -/
def clear (c : Caches) : Nat × Caches :=
  c.clearAll Family.all

/-- The keys remembered in a family, in the order in which they were first remembered. -/
def keys (c : Caches) (f : Family) : List String :=
  (c.memo f).entries.map (·.1)

/-- The reports of the memos, by the name of the family. -/
def report (c : Caches) : Json :=
  .obj (Family.all.map fun f => (f.name, (c.memo f).report))

@[simp] theorem memo_set_self (c : Caches) (f : Family) (m : Memo Json) :
    (c.set f m).memo f = m := by
  simp [set]

theorem memo_set_ne (c : Caches) {f g : Family} (h : g ≠ f) (m : Memo Json) :
    (c.set f m).memo g = c.memo g := by
  simp [set, h]

/-! ## What an answer leaves -/

section

variable {σ : Type} {c : Caches} {l : Lookup}

/-- A lookup that is remembered is answered from memory. -/
theorem answer_of_remembered {v : Json}
    (h : Assoc.find? l.key (c.memo l.family).entries = some v)
    (provider : Lookup → σ → Except Failure Json × σ) (s : σ) :
    ∃ m : Memo Json, c.answer provider l s = (.ok v, c.set l.family m, s) ∧
      m.entries = (c.memo l.family).entries ∧ m.inFlight = (c.memo l.family).inFlight := by
  obtain ⟨m, hm, hrest⟩ := Memo.fetch_of_remembered h (provider l) s
  rw [answer, hm]
  exact ⟨m, rfl, hrest⟩

/-- A lookup that the memo of its family lacks is answered by the provider, and remembered if it
succeeds. -/
theorem answer_of_lacks (h : (c.memo l.family).Lacks l.key)
    (provider : Lookup → σ → Except Failure Json × σ) (s : σ) :
    ∃ m : Memo Json,
      c.answer provider l s = ((provider l s).1, c.set l.family m, (provider l s).2) ∧
      m.entries = (provider l s).1.toOption.elim (c.memo l.family).entries
        (fun v => Assoc.put l.key v (c.memo l.family).entries) ∧
      m.inFlight = Assoc.remove l.key (c.memo l.family).inFlight := by
  obtain ⟨m, hm, hrest⟩ := Memo.fetch_of_lacks h (provider l) s
  rw [answer, hm]
  exact ⟨m, rfl, hrest⟩

end

end Caches

/-- A provider of figures, with or without memos in front of it. -/
structure Desk where
  provider : Provider := {}
  caches : Option Caches := some {}
  deriving Inhabited

namespace Desk

/-- The desk with another provider. -/
def mapProvider (f : Provider → Provider) (d : Desk) : Desk :=
  { d with provider := f d.provider }

/-- Replace figures of the provider.  What is remembered stays. -/
def updateFigures (v : Json) (d : Desk) : Except Failure Unit × Desk :=
  match d.provider.updateFigures v with
  | (result, provider) => (result, { d with provider })

/-- The calls that reached the provider, and the desk with an empty list of them. -/
def takeCalls (d : Desk) : List Call × Desk :=
  (d.provider.calls, { d with provider := d.provider.takeCalls.2 })

/-- Answer a lookup. -/
def answer (l : Lookup) (d : Desk) : Except Failure Json × Desk :=
  match d.caches with
  | some c =>
    match c.answer Provider.answer l d.provider with
    | (result, c, p) => (result, ⟨p, some c⟩)
  | none =>
    match d.provider.answer l with
    | (result, p) => (result, ⟨p, none⟩)

/-- Clear the memos; the result is the number of values forgotten. -/
def clear (d : Desk) : Nat × Desk :=
  match d.caches with
  | some c =>
    match c.clear with
    | (removed, c) => (removed, { d with caches := some c })
  | none => (0, d)

/-- Resolve a user name. -/
def resolve (name : Json) (d : Desk) : Except Failure (Option Uuid) × Desk :=
  match d.caches with
  | some c =>
    match c.resolve Provider.resolve name d.provider with
    | (result, c, p) => (result, ⟨p, some c⟩)
  | none =>
    match d.provider.resolve name with
    | (result, p) => (result, ⟨p, none⟩)

/-- The desk as the collaborator of a judgement; verdicts are tallied. -/
def collaborator : Program.Collaborator Judgement (Desk × Tally Verdict Nat) where
  answer := fun l s =>
    match s.1.answer l with
    | (result, d) => (result, d, s.2)
  notice := fun verdict s => (s.1, s.2.count verdict)

end Desk

end Recommender
