import Mathlib
import Recommender.Aggregate.Cached
import Recommender.Proofs.Aggregate.Key

/-!
# Remembered lookups are a snapshot

The memos are looked at together with what has happened in front of a provider: lookups, names to
resolve, clearings, and changes of the provider's state.  About the provider nothing is assumed: it
answers from a state, it may change its state while it answers, and between two requests the state
may change in any way.

After any such history, the memos hold the lookups that have succeeded since the last clearing, each
with the value that the provider gave when it was first asked.
-/

namespace Recommender

/-- A provider that is known by its answers only. -/
structure RawProvider (σ : Type) where
  answer : Lookup → σ → Except Failure Json × σ
  resolve : Json → σ → Except Failure (Option Uuid) × σ

/-- What a provider was asked, and what it answered. -/
inductive Consultation where
  | figure (l : Lookup) (result : Except Failure Json)
  | user (name : Json) (result : Except Failure (Option Uuid))

/-- A provider that keeps a list of what it was asked. -/
def RawProvider.watched {σ : Type} (raw : RawProvider σ) :
    RawProvider (σ × List Consultation) where
  answer := fun l s =>
    match raw.answer l s.1 with
    | (result, t) => (result, t, s.2 ++ [.figure l result])
  resolve := fun name s =>
    match raw.resolve name s.1 with
    | (result, t) => (result, t, s.2 ++ [.user name result])

/-- What happens in front of a provider. -/
inductive FrontEvent (σ : Type) where
  | lookup (l : Lookup)
  | resolve (name : Json)
  | clear
  /-- The provider's state changes. -/
  | change (f : σ → σ)

/-- Whether an event clears the memos. -/
def FrontEvent.isClear {σ : Type} : FrontEvent σ → Bool
  | .clear => true
  | _ => false

/-- What is replied to an event. -/
inductive FrontReply where
  | figure (result : Except Failure Json)
  | user (result : Except Failure (Option Uuid))
  | cleared (removed : Nat)
  | changed

/-- An event, the reply to it, and what the provider was asked in between. -/
structure Exchange (σ : Type) where
  event : FrontEvent σ
  reply : FrontReply
  consulted : List Consultation

/-- The lookup that has succeeded in an exchange, and its value. -/
def Exchange.success? {σ : Type} : Exchange σ → Option (Lookup × Json)
  | ⟨.lookup l, .figure (.ok v), _⟩ => some (l, v)
  | _ => none

/-- The memos in front of a provider, the provider's state, and what has happened. -/
structure Front (σ : Type) where
  caches : Caches := {}
  state : σ
  past : List (Exchange σ) := []

/-! ## Memos that hold given lookups -/

namespace Caches

variable {c c' : Caches} {ps : List (Lookup × Json)}

/-- How many values are remembered. -/
def size (c : Caches) : Nat :=
  (Family.all.map fun g => (c.memo g).entries.length).sum

/-- Two collections of memos remember and load the same in every family. -/
def Agrees (c c' : Caches) : Prop :=
  ∀ g, (c'.memo g).entries = (c.memo g).entries ∧ (c'.memo g).inFlight = (c.memo g).inFlight

/-- No load is in flight, and what is remembered are given lookups with their values. -/
structure Holds (c : Caches) (ps : List (Lookup × Json)) : Prop where
  settled : ∀ g, (c.memo g).inFlight = []
  find?_iff : ∀ l v, Assoc.find? l.key (c.memo l.family).entries = some v ↔ (l, v) ∈ ps
  size_eq : c.size = (ps.map (·.1)).toFinset.card

theorem toFinset_concat (ps : List (Lookup × Json)) (p : Lookup × Json) :
    ((ps ++ [p]).map (·.1)).toFinset = insert p.1 (ps.map (·.1)).toFinset := by
  rw [List.map_append, List.toFinset_append, List.map_singleton, List.toFinset_cons,
    List.toFinset_nil, insert_empty_eq, Finset.union_singleton]

/-- Putting a memo in the place of another one changes the size by the difference of the two. -/
theorem size_set (c : Caches) (g : Family) (m : Memo Json) :
    (c.set g m).size + (c.memo g).entries.length = c.size + m.entries.length := by
  cases g <;> simp [size, Family.all, set] <;> omega

/-- Clearing different families forgets what they remember. -/
theorem fst_clearAll {fs : List Family} (h : fs.Nodup) (c : Caches) :
    (c.clearAll fs).1 = (fs.map fun g => (c.memo g).entries.length).sum := by
  induction fs generalizing c with
  | nil => rfl
  | cons f rest ih =>
      rw [List.nodup_cons] at h
      have hrest : ∀ g ∈ rest, ((c.set f (c.memo f).clear.2).memo g).entries.length =
          (c.memo g).entries.length := by
        intro g hg
        have hne : g ≠ f := fun hgf => h.1 (hgf ▸ hg)
        rw [memo_set_ne c hne]
      rw [clearAll, List.map_cons, List.sum_cons, ← List.map_congr_left hrest, ← ih h.2]
      rfl

theorem memo_clearAll (fs : List Family) (c : Caches) (g : Family) :
    (((c.clearAll fs).2.memo g).entries = if g ∈ fs then [] else (c.memo g).entries) ∧
      ((c.clearAll fs).2.memo g).inFlight = if g ∈ fs then [] else (c.memo g).inFlight := by
  induction fs generalizing c with
  | nil => exact ⟨rfl, rfl⟩
  | cons f rest ih =>
      have hrest := ih (c.set f (c.memo f).clear.2)
      by_cases hgf : g = f
      · subst hgf
        simpa [clearAll, Memo.clear] using hrest
      · rw [memo_set_ne c hgf] at hrest
        simpa [clearAll, hgf] using hrest

theorem fst_clear (c : Caches) : c.clear.1 = c.size :=
  fst_clearAll (by decide) c

theorem mem_all (g : Family) : g ∈ Family.all := by
  cases g <;> decide

theorem holds_clear (c : Caches) : c.clear.2.Holds [] where
  settled := fun g => by
    rw [clear, (memo_clearAll Family.all c g).2, if_pos (mem_all g)]
  find?_iff := fun l v => by
    rw [clear, (memo_clearAll Family.all c l.family).1, if_pos (mem_all l.family)]
    simp
  size_eq := by
    have hempty : ∀ g ∈ Family.all, ((c.clearAll Family.all).2.memo g).entries.length = 0 := by
      intro g hg
      rw [(memo_clearAll Family.all c g).1, if_pos hg]
      rfl
    rw [size, clear, List.map_congr_left hempty]
    rfl

theorem holds_start : ({} : Caches).Holds [] where
  settled := fun _ => rfl
  find?_iff := fun l v => by simp
  size_eq := rfl

/-- A memo that remembers and loads the same may take the place of another one. -/
theorem agrees_set {g : Family} {m : Memo Json} (he : m.entries = (c.memo g).entries)
    (hf : m.inFlight = (c.memo g).inFlight) : c.Agrees (c.set g m) := by
  intro g'
  by_cases hg : g' = g
  · rw [hg, memo_set_self]
    exact ⟨he, hf⟩
  · rw [memo_set_ne c hg]
    exact ⟨rfl, rfl⟩

theorem Agrees.size_eq (h : c.Agrees c') : c'.size = c.size := by
  rw [size, size, List.map_congr_left fun g _ => congrArg List.length (h g).1]

namespace Holds

theorem congr (h : c.Holds ps) (ha : c.Agrees c') : c'.Holds ps where
  settled := fun g => by rw [(ha g).2, h.settled g]
  find?_iff := fun l v => by rw [(ha l.family).1, h.find?_iff]
  size_eq := by rw [ha.size_eq, h.size_eq]

/-- A lookup that is remembered may succeed again. -/
theorem again (h : c.Holds ps) {l : Lookup} {v : Json} (hl : (l, v) ∈ ps) :
    c.Holds (ps ++ [(l, v)]) where
  settled := h.settled
  find?_iff := fun l' v' => by
    rw [h.find?_iff, List.mem_append, List.mem_singleton]
    constructor
    · exact .inl
    · rintro (hold | hnew)
      · exact hold
      · exact hnew ▸ hl
  size_eq := by
    have hmem : l ∈ (ps.map (·.1)).toFinset :=
      List.mem_toFinset.mpr (List.mem_map.mpr ⟨_, hl, rfl⟩)
    rw [h.size_eq, toFinset_concat, Finset.insert_eq_of_mem hmem]

/-- A lookup that is not remembered is lacked by the memo of its family. -/
theorem lacks (h : c.Holds ps) {l : Lookup} (hl : ∀ v, (l, v) ∉ ps) :
    (c.memo l.family).Lacks l.key := by
  constructor
  · cases hf : Assoc.find? l.key (c.memo l.family).entries with
    | none => rfl
    | some v => exact absurd ((h.find?_iff l v).mp hf) (hl v)
  · rw [h.settled, Assoc.find?_nil]

/-- A lookup that is not remembered is put under its key, next to the others. -/
theorem put (h : c.Holds ps) {l : Lookup} {v : Json} (hl : ∀ w, (l, w) ∉ ps) {m : Memo Json}
    (he : m.entries = Assoc.put l.key v (c.memo l.family).entries) (hf : m.inFlight = []) :
    (c.set l.family m).Holds (ps ++ [(l, v)]) where
  settled := fun g => by
    by_cases hg : g = l.family
    · rw [hg, memo_set_self, hf]
    · rw [memo_set_ne c hg, h.settled]
  find?_iff := fun l' v' => by
    rw [List.mem_append, List.mem_singleton, Prod.mk.injEq, ← h.find?_iff]
    have hlacks := (h.lacks hl).1
    by_cases hg : l'.family = l.family
    · rw [hg, memo_set_self, he]
      by_cases hk : l'.key = l.key
      · -- Another lookup of the family would have another key.
        have hll := Lookup.eq_of_key_eq hg hk
        rw [hk, Assoc.find?_put_self, hlacks, hll]
        grind
      · have hll : l' ≠ l := fun hll => hk (hll ▸ rfl)
        rw [Assoc.find?_put_ne hk]
        simp [hll]
    · have hll : l' ≠ l := fun hll => hg (hll ▸ rfl)
      rw [memo_set_ne c hg]
      simp [hll]
  size_eq := by
    have hnew : l ∉ (ps.map (·.1)).toFinset := by
      rw [List.mem_toFinset, List.mem_map]
      rintro ⟨⟨l', w⟩, hw, rfl⟩
      exact hl w hw
    have hlength : m.entries.length = (c.memo l.family).entries.length + 1 := by
      rw [he, Assoc.length_put, if_neg (Assoc.find?_eq_none_iff.mp (h.lacks hl).1)]
    have hsize := size_set c l.family m
    rw [toFinset_concat, Finset.card_insert_of_notMem hnew, ← h.size_eq]
    omega

end Holds

end Caches

namespace Front

variable {σ : Type} {f : Front σ}

/-! ## Histories -/

/-- What an event brings about: the exchange, the memos and the provider's state. -/
def exchange (raw : RawProvider σ) (f : Front σ) (e : FrontEvent σ) :
    Exchange σ × Caches × σ :=
  match e with
  | .lookup l =>
    match f.caches.answer raw.watched.answer l (f.state, []) with
    | (result, c, s, consulted) => (⟨e, .figure result, consulted⟩, c, s)
  | .resolve name =>
    match f.caches.resolve raw.watched.resolve name (f.state, []) with
    | (result, c, s, consulted) => (⟨e, .user result, consulted⟩, c, s)
  | .clear =>
    match f.caches.clear with
    | (removed, c) => (⟨e, .cleared removed, []⟩, c, f.state)
  | .change g => (⟨e, .changed, []⟩, f.caches, g f.state)

/-- One event happens. -/
def step (raw : RawProvider σ) (f : Front σ) (e : FrontEvent σ) : Front σ :=
  match f.exchange raw e with
  | (x, caches, state) => { caches, state, past := f.past ++ [x] }

/-- Events happen one after the other. -/
def run (raw : RawProvider σ) (f : Front σ) : List (FrontEvent σ) → Front σ
  | [] => f
  | e :: rest => (f.step raw e).run raw rest

/-- The exchanges after the last clearing. -/
def sinceClear (f : Front σ) : List (Exchange σ) :=
  f.past.rtakeWhile fun x => !x.event.isClear

/-- The lookups that have succeeded since the last clearing, each with its value. -/
def successes (f : Front σ) : List (Lookup × Json) :=
  f.sinceClear.filterMap (·.success?)

/-- The different lookups that have succeeded since the last clearing. -/
def succeeded (f : Front σ) : Finset Lookup :=
  (f.successes.map (·.1)).toFinset

/-- The memos hold the lookups that have succeeded since the last clearing, and the value of each
was given by the provider in one of these exchanges. -/
structure Faithful (f : Front σ) : Prop where
  holds : f.caches.Holds f.successes
  origin : ∀ l v, (l, v) ∈ f.successes →
    ∃ x ∈ f.sinceClear, x.event = .lookup l ∧ x.consulted = [.figure l (.ok v)]

/-! ## What one event does -/

theorem sinceClear_concat {f f' : Front σ} {x : Exchange σ} (h : f'.past = f.past ++ [x])
    (hx : x.event.isClear = false) : f'.sinceClear = f.sinceClear ++ [x] := by
  rw [sinceClear, h, List.rtakeWhile_concat_pos _ _ _ (by rw [hx]; rfl), sinceClear]

theorem sinceClear_clear {f f' : Front σ} {x : Exchange σ} (h : f'.past = f.past ++ [x])
    (hx : x.event.isClear = true) : f'.sinceClear = [] := by
  rw [sinceClear, h, List.rtakeWhile_concat_neg _ _ _ (by rw [hx]; simp)]

/-- A lookup that is remembered is answered from memory, and the provider is not asked. -/
theorem exchange_of_remembered (raw : RawProvider σ) {l : Lookup} {v : Json}
    (h : Assoc.find? l.key (f.caches.memo l.family).entries = some v) :
    ∃ c, f.exchange raw (.lookup l) = (⟨.lookup l, .figure (.ok v), []⟩, c, f.state) ∧
      f.caches.Agrees c := by
  obtain ⟨m, hm, he, hf⟩ := Caches.answer_of_remembered h raw.watched.answer (f.state, [])
  rw [exchange, hm]
  exact ⟨_, rfl, Caches.agrees_set he hf⟩

/-- A lookup that is not remembered is answered by the provider. -/
theorem exchange_of_lacks (raw : RawProvider σ) {l : Lookup}
    (h : (f.caches.memo l.family).Lacks l.key) :
    ∃ m : Memo Json, f.exchange raw (.lookup l) =
        (⟨.lookup l, .figure (raw.answer l f.state).1, [.figure l (raw.answer l f.state).1]⟩,
          f.caches.set l.family m, (raw.answer l f.state).2) ∧
      m.entries = (raw.answer l f.state).1.toOption.elim (f.caches.memo l.family).entries
        (fun v => Assoc.put l.key v (f.caches.memo l.family).entries) ∧
      m.inFlight = Assoc.remove l.key (f.caches.memo l.family).inFlight := by
  obtain ⟨m, hm, he, hf⟩ := Caches.answer_of_lacks h raw.watched.answer (f.state, [])
  rw [exchange, hm]
  exact ⟨m, rfl, he, hf⟩

theorem step_eq {raw : RawProvider σ} {e : FrontEvent σ} {x : Exchange σ} {c : Caches} {s : σ}
    (h : f.exchange raw e = (x, c, s)) :
    f.step raw e = { caches := c, state := s, past := f.past ++ [x] } := by
  rw [step, h]

namespace Faithful

/-- An exchange that is neither a clearing nor a success leaves the memos faithful. -/
theorem of_no_success (h : f.Faithful) {x : Exchange σ} {c : Caches} {s : σ}
    (hx : x.event.isClear = false) (hs : x.success? = none) (ha : f.caches.Agrees c) :
    Faithful { caches := c, state := s, past := f.past ++ [x] } := by
  generalize hf : ({ caches := c, state := s, past := f.past ++ [x] } : Front σ) = f'
  have hsince : f'.sinceClear = f.sinceClear ++ [x] := sinceClear_concat (hf ▸ rfl) hx
  have hsucc : f'.successes = f.successes := by
    rw [successes, hsince, List.filterMap_append, List.filterMap_cons_none hs,
      List.filterMap_nil, List.append_nil, successes]
  refine ⟨?_, ?_⟩
  · rw [hsucc, ← hf]
    exact h.holds.congr ha
  · intro l v hl
    rw [hsucc] at hl
    obtain ⟨y, hy, hevent⟩ := h.origin l v hl
    exact ⟨y, hsince ▸ List.mem_append_left [x] hy, hevent⟩

/-- An exchange in which a lookup succeeds leaves the memos faithful if they hold the lookup then,
and the provider gave its value in this exchange or in an earlier one. -/
theorem of_success (h : f.Faithful) {x : Exchange σ} {l : Lookup} {v : Json} {c : Caches} {s : σ}
    (hevent : x.event = .lookup l) (hs : x.success? = some (l, v))
    (hc : c.Holds (f.successes ++ [(l, v)]))
    (horigin : (l, v) ∈ f.successes ∨ x.consulted = [.figure l (.ok v)]) :
    Faithful { caches := c, state := s, past := f.past ++ [x] } := by
  generalize hf : ({ caches := c, state := s, past := f.past ++ [x] } : Front σ) = f'
  have hsince : f'.sinceClear = f.sinceClear ++ [x] :=
    sinceClear_concat (hf ▸ rfl) (by rw [hevent]; rfl)
  have hsucc : f'.successes = f.successes ++ [(l, v)] := by
    rw [successes, hsince, List.filterMap_append, List.filterMap_cons_some hs,
      List.filterMap_nil, successes]
  have hold : ∀ l' v', (l', v') ∈ f.successes → ∃ y ∈ f'.sinceClear,
      y.event = .lookup l' ∧ y.consulted = [.figure l' (.ok v')] := by
    intro l' v' hl'
    obtain ⟨y, hy, hevent'⟩ := h.origin l' v' hl'
    exact ⟨y, hsince ▸ List.mem_append_left [x] hy, hevent'⟩
  refine ⟨?_, ?_⟩
  · rw [hsucc, ← hf]
    exact hc
  · intro l' v' hl'
    rw [hsucc, List.mem_append, List.mem_singleton] at hl'
    obtain hl' | heq := hl'
    · exact hold l' v' hl'
    · cases heq
      obtain hmem | hconsulted := horigin
      · exact hold l v hmem
      · exact ⟨x, hsince ▸ List.mem_append_right _ List.mem_cons_self, hevent, hconsulted⟩

theorem lookup (h : f.Faithful) (raw : RawProvider σ) (l : Lookup) :
    (f.step raw (.lookup l)).Faithful := by
  by_cases hl : ∃ v, (l, v) ∈ f.successes
  · obtain ⟨v, hv⟩ := hl
    obtain ⟨c, hx, ha⟩ := exchange_of_remembered raw ((h.holds.find?_iff l v).mpr hv)
    rw [step_eq hx]
    exact h.of_success rfl rfl ((h.holds.congr ha).again hv) (.inl hv)
  · have hl' : ∀ v, (l, v) ∉ f.successes := fun v hv => hl ⟨v, hv⟩
    obtain ⟨m, hx, he, hf⟩ := exchange_of_lacks raw (h.holds.lacks hl')
    rw [h.holds.settled] at hf
    rw [step_eq hx]
    cases hr : (raw.answer l f.state).1 with
    | ok v =>
        rw [hr] at he
        exact h.of_success rfl rfl (h.holds.put hl' he hf) (.inr rfl)
    | error e =>
        rw [hr] at he
        have hf' : m.inFlight = (f.caches.memo l.family).inFlight := by
          rw [h.holds.settled]
          exact hf
        exact h.of_no_success rfl rfl (Caches.agrees_set he hf')

theorem clear (f : Front σ) (raw : RawProvider σ) : (f.step raw .clear).Faithful := by
  have hsince : (f.step raw .clear).sinceClear = [] := sinceClear_clear (f := f) rfl rfl
  have hsucc : (f.step raw .clear).successes = [] := by
    rw [successes, hsince, List.filterMap_nil]
  refine ⟨?_, ?_⟩
  · rw [hsucc]
    exact f.caches.holds_clear
  · intro l v hl
    rw [hsucc] at hl
    cases hl

/-- **What one event preserves.** -/
theorem step (h : f.Faithful) (raw : RawProvider σ) (e : FrontEvent σ) :
    (f.step raw e).Faithful := by
  cases e with
  | lookup l => exact h.lookup raw l
  | resolve name => exact h.of_no_success rfl rfl fun _ => ⟨rfl, rfl⟩
  | clear => exact Faithful.clear f raw
  | change g => exact h.of_no_success rfl rfl fun _ => ⟨rfl, rfl⟩

theorem run (h : f.Faithful) (raw : RawProvider σ) (events : List (FrontEvent σ)) :
    (f.run raw events).Faithful := by
  induction events generalizing f with
  | nil => exact h
  | cons e rest ih => exact ih (h.step raw e)

end Faithful

theorem faithful_start (s : σ) : ({ state := s } : Front σ).Faithful where
  holds := Caches.holds_start
  origin := fun _ _ hl => by cases hl

/-- **Lookups are a snapshot of the provider**, after every sequence of lookups, resolved names,
clearings and changes of the provider's state.  A lookup that has not succeeded since the last
clearing asks the provider this lookup, once, and has its answer, value or failure, and the provider
is left as the question leaves it.  One that has succeeded is answered with its value, which the
provider gave in an exchange since the last clearing, and the provider is not asked.  A name to
resolve is always asked of the provider, and clearing reports the number of the different lookups
that have succeeded. -/
theorem lookups_are_a_snapshot (raw : RawProvider σ) (s₀ : σ) (events : List (FrontEvent σ)) :
    let f := ({ state := s₀ } : Front σ).run raw events
    (∀ l, l ∉ f.succeeded →
      (f.exchange raw (.lookup l)).1 =
        ⟨.lookup l, .figure (raw.answer l f.state).1, [.figure l (raw.answer l f.state).1]⟩ ∧
      (f.exchange raw (.lookup l)).2.2 = (raw.answer l f.state).2) ∧
    (∀ l v, (l, v) ∈ f.successes →
      (f.exchange raw (.lookup l)).1 = ⟨.lookup l, .figure (.ok v), []⟩ ∧
      (f.exchange raw (.lookup l)).2.2 = f.state ∧
      ∃ x ∈ f.sinceClear, x.event = .lookup l ∧ x.consulted = [.figure l (.ok v)]) ∧
    (∀ name, f.exchange raw (.resolve name) =
      (⟨.resolve name, .user (raw.resolve name f.state).1,
        [.user name (raw.resolve name f.state).1]⟩, f.caches, (raw.resolve name f.state).2)) ∧
    (f.exchange raw .clear).1 = ⟨.clear, .cleared f.succeeded.card, []⟩ := by
  intro f
  have h : f.Faithful := (faithful_start s₀).run raw events
  refine ⟨?_, ?_, ?_, ?_⟩
  · intro l hl
    have hl' : ∀ v, (l, v) ∉ f.successes := fun v hv =>
      hl (List.mem_toFinset.mpr (List.mem_map.mpr ⟨_, hv, rfl⟩))
    obtain ⟨m, hx, -, -⟩ := exchange_of_lacks raw (h.holds.lacks hl')
    rw [hx]
    exact ⟨rfl, rfl⟩
  · intro l v hv
    obtain ⟨c, hx, -⟩ := exchange_of_remembered raw ((h.holds.find?_iff l v).mpr hv)
    rw [hx]
    exact ⟨rfl, rfl, h.origin l v hv⟩
  · intro name
    rfl
  · have hcleared : f.caches.clear.1 = f.succeeded.card := by
      rw [Caches.fst_clear, h.holds.size_eq, succeeded]
    rw [← hcleared]
    rfl

/-- The provider that stands behind a desk. -/
def provider : RawProvider Provider := ⟨Provider.answer, Provider.resolve⟩

/-- A lookup that fails, the same lookup without the fault, and a change of the figures. -/
def kept : List (FrontEvent Provider) :=
  [.lookup (.deposits .debit default), .change fun p => { p with faults := [] },
    .lookup (.deposits .debit default), .change fun p => { p with source := .figures {} }]

/-- Deposits of five, and a fault in their lookup. -/
def faulty : Provider where
  source := .figures { deposits := [(.debit, .int 5)] }
  faults := [(.lookup .deposits, .undefined)]

theorem lookups_are_a_snapshot_kept :
    let f := ({ state := faulty } : Front Provider).run provider kept
    (f.exchange provider (.lookup (.deposits .debit default))).1 =
        ⟨.lookup (.deposits .debit default), .figure (.ok (.int 5)), []⟩ ∧
      (f.exchange provider (.lookup (.withdrawals .debit default))).1.consulted =
        [.figure (.withdrawals .debit default) (.ok (.int 0))] := by
  obtain ⟨hasked, hkept, -, -⟩ := lookups_are_a_snapshot provider faulty kept
  obtain ⟨hreply, -, -⟩ := hkept (.deposits .debit default) (.int 5) (List.mem_singleton.mpr rfl)
  obtain ⟨hconsulted, -⟩ := hasked (.withdrawals .debit default) (by decide)
  exact ⟨hreply, congrArg Exchange.consulted hconsulted⟩

end Front

end Recommender
