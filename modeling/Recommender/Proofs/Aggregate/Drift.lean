import Mathlib
import Recommender.Database.Transactions
import Recommender.Proofs.Aggregate.Snapshot

/-!
# One figure in two memos

The sum of a user's deposits is asked in two ways, as the turnover in the direction of deposits and
as the sum of deposits, and the sum of withdrawals likewise.  Providers give both questions the same
answer.  Each question has a memo of its own, though, and the two memos load at different moments.

What a memo has for a figure is what the provider gave when the figure was loaded, that is when its
lookup first succeeded after the last clearing.  So the two memos of a figure have one value if and
only if the provider had one value at the two moments, and a change of the figure in between makes
them drift apart until the memos are cleared.
-/

namespace Recommender

/-- The sum of the user's transactions of one direction, asked by the name of the direction. -/
def Lookup.total (d : Direction) (p : Product) (u : Uuid) : Lookup :=
  match d with
  | .deposit => .deposits p u
  | .withdraw => .withdrawals p u

namespace RawProvider

variable {σ : Type}

/-- The two ways of asking for a sum have one answer. -/
def OneFigure (raw : RawProvider σ) (s : σ) : Prop :=
  ∀ d p u, (raw.answer (.total d p u) s).1 = (raw.answer (.turnover p d u) s).1

/-- To be asked does not change what the provider answers. -/
structure Steady (raw : RawProvider σ) : Prop where
  answer : ∀ l l' s, (raw.answer l' (raw.answer l s).2).1 = (raw.answer l' s).1
  resolve : ∀ name l' s, (raw.answer l' (raw.resolve name s).2).1 = (raw.answer l' s).1

end RawProvider

/-- Figures have one answer to the two questions. -/
theorem Figures.answer_total (f : Figures) (d : Direction) (p : Product) (u : Uuid) :
    f.answer (.total d p u) = f.answer (.turnover p d u) := by
  cases d <;> rfl

/-- The transactions database is asked the same for both questions. -/
theorem Transactions.answer_total (d : Direction) (p : Product) (u : Uuid) :
    Transactions.answer (.total d p u) = Transactions.answer (.turnover p d u) := by
  cases d <;> rfl

namespace Front

variable {σ : Type} {raw : RawProvider σ}

/-! ## When a value was loaded -/

/-- The value that the memos have for a lookup. -/
def remembered? (f : Front σ) (l : Lookup) : Option Json :=
  Assoc.find? l.key (f.caches.memo l.family).entries

/-- Among some events, a lookup has been loaded after the first ones: it had not succeeded since the
last clearing, it was asked next and the provider gave its value, and no clearing followed. -/
structure Loaded (raw : RawProvider σ) (s₀ : σ) (events before : List (FrontEvent σ)) (l : Lookup)
    (v : Json) : Prop where
  fresh : l ∉ (({ state := s₀ } : Front σ).run raw before).succeeded
  given : (raw.answer l (({ state := s₀ } : Front σ).run raw before).state).1 = .ok v
  kept : ∃ after, events = before ++ .lookup l :: after ∧ ∀ e ∈ after, e.isClear = false

theorem run_append (raw : RawProvider σ) (f : Front σ) (events more : List (FrontEvent σ)) :
    f.run raw (events ++ more) = (f.run raw events).run raw more := by
  induction events generalizing f with
  | nil => rfl
  | cons e rest ih => exact ih (f.step raw e)

theorem run_concat (raw : RawProvider σ) (f : Front σ) (events : List (FrontEvent σ))
    (e : FrontEvent σ) : f.run raw (events ++ [e]) = (f.run raw events).step raw e :=
  run_append raw f events [e]

/-- After one more event, a value is a loaded one if it was, or if it has just been loaded. -/
theorem loaded_concat {s₀ : σ} {events before : List (FrontEvent σ)} {e : FrontEvent σ} {l : Lookup}
    {v : Json} :
    Loaded raw s₀ (events ++ [e]) before l v ↔
      e.isClear = false ∧ Loaded raw s₀ events before l v ∨
        before = events ∧ e = .lookup l ∧
          l ∉ (({ state := s₀ } : Front σ).run raw events).succeeded ∧
          (raw.answer l (({ state := s₀ } : Front σ).run raw events).state).1 = .ok v := by
  constructor
  · rintro ⟨hfresh, hgiven, after, hsplit, hkept⟩
    induction after using List.reverseRecOn with
    | nil =>
        obtain ⟨rfl, he⟩ := List.append_inj' hsplit rfl
        exact .inr ⟨rfl, List.head_eq_of_cons_eq he, hfresh, hgiven⟩
    | append_singleton after last _ =>
        rw [← List.cons_append, ← List.append_assoc] at hsplit
        obtain ⟨hevents, he⟩ := List.append_inj' hsplit rfl
        have hlast : e = last := List.head_eq_of_cons_eq he
        refine .inl ⟨hlast ▸ hkept last (by simp), hfresh, hgiven, after, hevents, ?_⟩
        exact fun e' he' => hkept e' (List.mem_append_left _ he')
  · rintro (⟨he, hfresh, hgiven, after, rfl, hkept⟩ | ⟨rfl, rfl, hfresh, hgiven⟩)
    · refine ⟨hfresh, hgiven, after ++ [e], by simp, ?_⟩
      intro e' he'
      rw [List.mem_append, List.mem_singleton] at he'
      obtain he' | rfl := he'
      · exact hkept e' he'
      · exact he
    · exact ⟨hfresh, hgiven, [], rfl, by simp⟩

/-! ## What one event does to the successes -/

theorem successes_concat {f g : Front σ} {x : Exchange σ} (h : g.past = f.past ++ [x])
    (hx : x.event.isClear = false) :
    g.successes = f.successes ++ x.success?.toList := by
  rw [successes, sinceClear_concat h hx, List.filterMap_append, successes]
  cases hs : x.success? <;> simp [hs]

theorem successes_clear {f g : Front σ} {x : Exchange σ} (h : g.past = f.past ++ [x])
    (hx : x.event.isClear = true) : g.successes = [] := by
  rw [successes, sinceClear_clear h hx, List.filterMap_nil]

theorem mem_succeeded {f : Front σ} {l : Lookup} :
    l ∈ f.succeeded ↔ ∃ v, (l, v) ∈ f.successes := by
  simp [succeeded]

/-- What succeeds in a lookup is what was remembered, or else what the provider gives. -/
theorem mem_successes_lookup {f : Front σ} (h : f.Faithful) {l l' : Lookup} {v : Json} :
    (l, v) ∈ (f.step raw (.lookup l')).successes ↔
      (l, v) ∈ f.successes ∨
        l' = l ∧ l ∉ f.succeeded ∧ (raw.answer l f.state).1 = .ok v := by
  by_cases hl : ∃ w, (l', w) ∈ f.successes
  · obtain ⟨w, hw⟩ := hl
    obtain ⟨c, hx, -⟩ := exchange_of_remembered raw ((h.holds.find?_iff l' w).mpr hw)
    rw [step_eq hx, successes_concat rfl rfl, List.mem_append]
    constructor
    · rintro (hold | hnew)
      · exact .inl hold
      · cases List.mem_singleton.mp hnew
        exact .inl hw
    · rintro (hold | ⟨rfl, hfresh, -⟩)
      · exact .inl hold
      · exact absurd (mem_succeeded.mpr ⟨w, hw⟩) hfresh
  · have hl' : ∀ w, (l', w) ∉ f.successes := fun w hw => hl ⟨w, hw⟩
    obtain ⟨m, hx, -, -⟩ := exchange_of_lacks raw (h.holds.lacks hl')
    rw [step_eq hx, successes_concat rfl rfl, List.mem_append]
    refine or_congr_right ?_
    constructor
    · intro hnew
      cases hr : (raw.answer l' f.state).1 with
      | ok w =>
          rw [hr] at hnew
          cases List.mem_singleton.mp hnew
          exact ⟨rfl, fun hmem => hl (mem_succeeded.mp hmem), hr⟩
      | error e =>
          rw [hr] at hnew
          cases hnew
    · rintro ⟨rfl, -, hr⟩
      rw [hr]
      exact List.mem_singleton.mpr rfl

theorem mem_successes_iff_loaded (raw : RawProvider σ) (s₀ : σ) (events : List (FrontEvent σ))
    (l : Lookup) (v : Json) :
    (l, v) ∈ (({ state := s₀ } : Front σ).run raw events).successes ↔
      ∃ before, Loaded raw s₀ events before l v := by
  induction events using List.reverseRecOn with
  | nil =>
      constructor
      · intro h
        cases h
      · rintro ⟨before, -, -, after, hsplit, -⟩
        simp at hsplit
  | append_singleton events e ih =>
      rw [run_concat]
      simp only [loaded_concat, exists_or, exists_and_left, ← ih]
      cases e with
      | lookup l' =>
          rw [mem_successes_lookup ((faithful_start s₀).run raw events)]
          simp [FrontEvent.isClear]
      | resolve name =>
          rw [successes_concat (g := Front.step _ _ _) rfl rfl]
          simp [FrontEvent.isClear, Exchange.success?]
      | clear =>
          rw [successes_clear (g := Front.step _ _ _) rfl rfl]
          simp [FrontEvent.isClear]
      | change g =>
          rw [successes_concat (g := Front.step _ _ _) rfl rfl]
          simp [FrontEvent.isClear, Exchange.success?]

/-- What is remembered is what has been loaded. -/
theorem remembered?_iff_loaded (raw : RawProvider σ) (s₀ : σ) (events : List (FrontEvent σ))
    (l : Lookup) (v : Json) :
    (({ state := s₀ } : Front σ).run raw events).remembered? l = some v ↔
      ∃ before, Loaded raw s₀ events before l v := by
  have h : (({ state := s₀ } : Front σ).run raw events).Faithful :=
    (faithful_start s₀).run raw events
  rw [remembered?, h.holds.find?_iff, mem_successes_iff_loaded]

/-! ## What the provider's state goes through -/

/-- One event leaves the provider's state as it is, or as a question or a change leaves it. -/
theorem state_step {f : Front σ} (h : f.Faithful) (raw : RawProvider σ) (e : FrontEvent σ) :
    (f.step raw e).state = f.state ∨ (∃ l, (f.step raw e).state = (raw.answer l f.state).2) ∨
      (∃ name, (f.step raw e).state = (raw.resolve name f.state).2) ∨
        ∃ g, e = .change g ∧ (f.step raw e).state = g f.state := by
  cases e with
  | lookup l =>
      by_cases hl : ∃ v, (l, v) ∈ f.successes
      · obtain ⟨v, hv⟩ := hl
        obtain ⟨c, hx, -⟩ := exchange_of_remembered raw ((h.holds.find?_iff l v).mpr hv)
        exact .inl (by rw [step_eq hx])
      · obtain ⟨m, hx, -, -⟩ := exchange_of_lacks raw (h.holds.lacks fun v hv => hl ⟨v, hv⟩)
        exact .inr (.inl ⟨l, by rw [step_eq hx]⟩)
  | resolve name => exact .inr (.inr (.inl ⟨name, rfl⟩))
  | clear => exact .inl rfl
  | change g => exact .inr (.inr (.inr ⟨g, rfl, rfl⟩))

/-- What questions and the changes among some events preserve is preserved by the events. -/
theorem invariant_run {P : σ → Prop} (hanswer : ∀ l s, P s → P (raw.answer l s).2)
    (hresolve : ∀ name s, P s → P (raw.resolve name s).2) {events : List (FrontEvent σ)}
    (hchange : ∀ g, .change g ∈ events → ∀ s, P s → P (g s)) {f : Front σ} (hf : f.Faithful)
    (hP : P f.state) : P (f.run raw events).state := by
  induction events generalizing f with
  | nil => exact hP
  | cons e rest ih =>
      refine ih (fun g hg => hchange g (List.mem_cons_of_mem e hg)) (hf.step raw e) ?_
      obtain h | ⟨l, h⟩ | ⟨name, h⟩ | ⟨g, rfl, h⟩ := state_step hf raw e
      · exact h ▸ hP
      · exact h ▸ hanswer l _ hP
      · exact h ▸ hresolve name _ hP
      · exact h ▸ hchange g List.mem_cons_self _ hP

/-- The figure of a lookup stays the same while no change of the provider alters it. -/
theorem answer_run_of_unaltered (hraw : raw.Steady) {l : Lookup} {between : List (FrontEvent σ)}
    (h : ∀ g, .change g ∈ between → ∀ s, (raw.answer l (g s)).1 = (raw.answer l s).1)
    {f : Front σ} (hf : f.Faithful) :
    (raw.answer l (f.run raw between).state).1 = (raw.answer l f.state).1 :=
  invariant_run (P := fun s => (raw.answer l s).1 = (raw.answer l f.state).1)
    (fun l' s hs => (hraw.answer l' l s).trans hs)
    (fun name s hs => (hraw.resolve name l s).trans hs)
    (fun g hg s hs => (h g hg s).trans hs) hf rfl

/-! ## The provider behind a desk -/

/-- A lookup leaves the provider as it is, or with one more call. -/
theorem provider_answer (l : Lookup) (p : Provider) :
    (p.answer l).2 = p ∨ ∃ c, (p.answer l).2 = p.called c := by
  rw [Provider.answer, Provider.answerCall]
  cases p.faults.find? (.lookup l.family) with
  | none => exact .inr ⟨_, rfl⟩
  | some e =>
      cases p.source.recordsFaults with
      | false => exact .inl rfl
      | true => exact .inr ⟨_, rfl⟩

/-- A name to resolve leaves the provider as it is, or with one more call. -/
theorem provider_resolve (name : Json) (p : Provider) :
    (p.resolve name).2 = p ∨ ∃ c, (p.resolve name).2 = p.called c := by
  rw [Provider.resolve]
  split
  · exact .inl rfl
  · exact .inr ⟨_, rfl⟩

theorem answer_called (l : Lookup) (c : Call) (p : Provider) :
    ((p.called c).answer l).1 = (p.answer l).1 := by
  rw [Provider.answer, Provider.answer, Provider.answerCall, Provider.answerCall]
  simp only [Provider.called]
  split <;> rfl

theorem provider_steady : provider.Steady where
  answer := fun l l' p => by
    obtain h | ⟨c, h⟩ := provider_answer l p
    · exact congrArg (fun q : Provider => (q.answer l').1) h
    · exact (congrArg (fun q : Provider => (q.answer l').1) h).trans (answer_called l' c p)
  resolve := fun name l' p => by
    obtain h | ⟨c, h⟩ := provider_resolve name p
    · exact congrArg (fun q : Provider => (q.answer l').1) h
    · exact (congrArg (fun q : Provider => (q.answer l').1) h).trans (answer_called l' c p)

/-- A provider works from figures that answer every lookup, and is not told to fail. -/
def Plain (p : Provider) : Prop :=
  p.faults = [] ∧ ∃ f, p.source = .figures f ∧ ∀ l, ∃ v, f.answer l = .ok v

theorem Plain.called {p : Provider} (h : Plain p) (c : Call) : Plain (p.called c) := h

theorem Plain.answer {p : Provider} (h : Plain p) :
    ∃ f : Figures, (∀ l, (p.answer l).1 = f.answer l) ∧ ∀ l, ∃ v, f.answer l = .ok v := by
  obtain ⟨hfaults, f, hsource, hgives⟩ := h
  refine ⟨f, fun l => ?_, hgives⟩
  have hfault : p.faults.find? (.lookup l.family) = none := by
    rw [hfaults]
    rfl
  rw [Provider.answer, Provider.answerCall, hfault, hsource]
  rfl

theorem Plain.gives {p : Provider} (h : Plain p) (l : Lookup) : ∃ v, (p.answer l).1 = .ok v := by
  obtain ⟨f, hanswer, hgives⟩ := h.answer
  obtain ⟨v, hv⟩ := hgives l
  exact ⟨v, (hanswer l).trans hv⟩

theorem Plain.oneFigure {p : Provider} (h : Plain p) : provider.OneFigure p := by
  obtain ⟨f, hanswer, -⟩ := h.answer
  intro d product u
  exact (hanswer _).trans ((f.answer_total d product u).trans (hanswer _).symm)

/-- A provider of figures goes on to be one if each change leaves it one. -/
theorem plain_run {events : List (FrontEvent Provider)} {p : Provider} (hp : Plain p)
    (hchange : ∀ g, .change g ∈ events → ∀ q, Plain q → Plain (g q)) :
    Plain (({ state := p } : Front Provider).run provider events).state := by
  refine invariant_run (P := Plain) ?_ ?_ hchange (faithful_start p) hp
  · intro l q hq
    obtain h | ⟨c, h⟩ := provider_answer l q
    · exact h.symm ▸ hq
    · exact h.symm ▸ hq.called c
  · intro name q hq
    obtain h | ⟨c, h⟩ := provider_resolve name q
    · exact h.symm ▸ hq
    · exact h.symm ▸ hq.called c

/-! ## The values of a figure -/

/-- **Two memos of one figure have the values of their loads.**  In front of a provider that gives
one answer to the two ways of asking for a sum, after every sequence of lookups, resolved names,
clearings and changes, either memo has a value for a sum if and only if the lookup was loaded with
it, and then it is the figure that the provider had at that moment.  The two memos have the same
value if and only if the figures of the two moments are the same; they are, if no change of the
provider from one moment to the other alters the figure. -/
theorem memos_of_one_figure (raw : RawProvider σ) (s₀ : σ) (events : List (FrontEvent σ))
    (hone : ∀ before, before <+: events →
      raw.OneFigure (({ state := s₀ } : Front σ).run raw before).state)
    (hraw : raw.Steady) (d : Direction) (p : Product) (u : Uuid) :
    let f := ({ state := s₀ } : Front σ).run raw events
    let figure before :=
      (raw.answer (.turnover p d u) (({ state := s₀ } : Front σ).run raw before).state).1
    (∀ l ∈ [Lookup.turnover p d u, .total d p u], ∀ v,
      (f.remembered? l = some v ↔ ∃ before, Loaded raw s₀ events before l v) ∧
      ∀ before, Loaded raw s₀ events before l v → figure before = .ok v) ∧
    ∀ before before' v w, Loaded raw s₀ events before (.turnover p d u) v →
      Loaded raw s₀ events before' (.total d p u) w →
      (v = w ↔ figure before = figure before') ∧
      ∀ between, before' = before ++ between ∨ before = before' ++ between →
        (∀ g, .change g ∈ between → ∀ s,
          (raw.answer (.turnover p d u) (g s)).1 = (raw.answer (.turnover p d u) s).1) →
        v = w := by
  intro f figure
  have hgiven : ∀ l ∈ [Lookup.turnover p d u, .total d p u], ∀ v before,
      Loaded raw s₀ events before l v → figure before = .ok v := by
    intro l hl v before hloaded
    obtain ⟨after, rfl, -⟩ := hloaded.kept
    obtain rfl | rfl : l = .turnover p d u ∨ l = .total d p u := by simpa using hl
    · exact hloaded.given
    · exact (hone before (List.prefix_append _ _) d p u).symm.trans hloaded.given
  refine ⟨?_, ?_⟩
  · intro l hl v
    exact ⟨remembered?_iff_loaded raw s₀ events l v, hgiven l hl v⟩
  · intro before before' v w hv hw
    have hleft : figure before = .ok v := hgiven _ (by simp) v before hv
    have hright : figure before' = .ok w := hgiven _ (by simp) w before' hw
    have hiff : v = w ↔ figure before = figure before' := by
      rw [hleft, hright, Except.ok.injEq]
    refine ⟨hiff, ?_⟩
    intro between hsplit halter
    rw [hiff]
    obtain rfl | rfl := hsplit
    · show _ = (raw.answer _ (Front.run raw _ (before ++ between)).state).1
      rw [run_append, answer_run_of_unaltered hraw halter ((faithful_start s₀).run raw before)]
    · show (raw.answer _ (Front.run raw _ (before' ++ between)).state).1 = _
      rw [run_append, answer_run_of_unaltered hraw halter ((faithful_start s₀).run raw before')]

/-- The provider with deposits of a given number, and no other figures. -/
def depositing (n : Int) (p : Provider) : Provider :=
  { p with source := .figures { deposits := [(.debit, .int n)] } }

theorem plain_depositing (n : Int) {p : Provider} (h : p.faults = []) : Plain (depositing n p) := by
  refine ⟨h, _, rfl, ?_⟩
  intro l
  cases l with
  | turnover _ d _ => cases d <;> exact ⟨_, rfl⟩
  | _ => exact ⟨_, rfl⟩

/-- The turnover is asked, the deposits become seven, and then the sum of deposits is asked. -/
def drifting : List (FrontEvent Provider) :=
  [.lookup (.turnover .debit .deposit default), .change (depositing 7),
    .lookup (.deposits .debit default)]

theorem plain_drifting {before : List (FrontEvent Provider)} (h : before <+: drifting) :
    Plain (({ state := depositing 5 {} } : Front Provider).run provider before).state := by
  refine plain_run (plain_depositing 5 rfl) ?_
  intro g hg q hq
  have hmem : FrontEvent.change g ∈ drifting := h.subset hg
  obtain rfl : g = depositing 7 := by simpa [drifting] using hmem
  exact plain_depositing 7 hq.1

theorem remembered?_drifting :
    let f := ({ state := depositing 5 {} } : Front Provider).run provider drifting
    f.remembered? (.turnover .debit .deposit default) = some (.int 5) ∧
      f.remembered? (.deposits .debit default) = some (.int 7) :=
  ⟨rfl, rfl⟩

/-- A provider that gives every lookup an answer, and always the same one to the two ways of asking
for deposits, has two memos of the deposits with different values. -/
theorem memos_of_one_figure_drift :
    let start : Front Provider := { state := depositing 5 {} }
    (∀ before, before <+: drifting →
      (∀ l, ∃ v, (provider.answer l (start.run provider before).state).1 = .ok v) ∧
      provider.OneFigure (start.run provider before).state) ∧
    (start.run provider drifting).remembered? (.turnover .debit .deposit default) ≠
      (start.run provider drifting).remembered? (.total .deposit .debit default) := by
  refine ⟨fun before h => ⟨(plain_drifting h).gives, (plain_drifting h).oneFigure⟩, ?_⟩
  obtain ⟨hturnover, hdeposits⟩ := remembered?_drifting
  rw [hturnover, Lookup.total, hdeposits]
  simp

theorem memos_of_one_figure_drifting :
    ∃ before before', Loaded provider (depositing 5 {}) drifting before
        (.turnover .debit .deposit default) (.int 5) ∧
      Loaded provider (depositing 5 {}) drifting before'
        (.total .deposit .debit default) (.int 7) ∧
      (provider.answer (.turnover .debit .deposit default)
          (({ state := depositing 5 {} } : Front Provider).run provider before).state).1 ≠
        (provider.answer (.turnover .debit .deposit default)
          (({ state := depositing 5 {} } : Front Provider).run provider before').state).1 := by
  obtain ⟨hloads, hsame⟩ := memos_of_one_figure provider (depositing 5 {}) drifting
    (fun _ h => (plain_drifting h).oneFigure) provider_steady .deposit .debit default
  obtain ⟨hturnover, hdeposits⟩ := remembered?_drifting
  obtain ⟨before, hbefore⟩ := (hloads _ (by simp) _).1.mp hturnover
  obtain ⟨before', hbefore'⟩ := (hloads (.total .deposit .debit default) (by simp) _).1.mp hdeposits
  refine ⟨before, before', hbefore, hbefore', fun hfigure => ?_⟩
  have hvalues := (hsame before before' _ _ hbefore hbefore').1.mpr hfigure
  cases hvalues

end Front

end Recommender
