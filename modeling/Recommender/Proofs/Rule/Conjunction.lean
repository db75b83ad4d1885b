import Recommender.Proofs.Rule.Evaluation
import Recommender.Proofs.Rule.Judgement

/-!
# Rules as conjunctions

The queries of a rule are judged in order, up to the first one that decides, and the verdict tells a
rule that does not match from a malformed one.  Without this distinction the order does not matter:
a rule matches if it has queries and all of them hold.  So whether it matches depends only on what
its queries are; their order and repetitions show in the verdict and in what is looked up.
-/

namespace Recommender

/-- Whether a rule matches a user; a malformed rule does not. -/
def Rule.matchesUser (r : Rule) (user : Uuid) : Program Judgement Bool := do
  let result ← r.evaluate user
  return result.matched

/-- The queries of a rule are texts, and no numeral among them has too many digits. -/
def Rule.IsPlain (r : Rule) : Prop :=
  ∀ q ∈ r.queryList, q.IsText ∧ ¬ q.Overlong

/-- A rule has queries, and all of them hold. -/
def Rule.Holds (figure : Lookup → Json) (user : Uuid) (r : Rule) : Prop :=
  r.queryList ≠ [] ∧ ∀ q ∈ r.queryList, q.Holds figure user

namespace Rule

variable {σ : Type} {c : Program.Collaborator Judgement σ} {figure : Lookup → Json} {user : Uuid}
  {r r' r'' : Rule}

/-! ## Plain rules -/

theorem IsPlain.not_reachesOverlong (h : r.IsPlain) :
    ¬ ReachesOverlong figure user r.queryList := by
  rintro ⟨before, q, after, hqs, -, hlong⟩
  exact (h q (hqs ▸ List.mem_append_right before List.mem_cons_self)).2 hlong

theorem IsPlain.of_subset (h : r.IsPlain) (hsub : ∀ q ∈ r'.queryList, q ∈ r.queryList) :
    r'.IsPlain :=
  fun q hq => h q (hsub q hq)

theorem IsPlain.of_append (h : r.IsPlain) (h' : r'.IsPlain)
    (happ : r''.queryList = r.queryList ++ r'.queryList) : r''.IsPlain := by
  intro q hq
  rw [happ, List.mem_append] at hq
  exact hq.elim (h q) (h' q)

/-! ## Conjunctions -/

theorem holds_congr (h : ∀ q, q ∈ r.queryList ↔ q ∈ r'.queryList) :
    r.Holds figure user ↔ r'.Holds figure user := by
  simp only [Holds, ne_eq, List.eq_nil_iff_forall_not_mem, h]

/-- A rule with more queries holds less often. -/
theorem Holds.of_subset (h : r'.Holds figure user) (hne : r.queryList ≠ [])
    (hsub : ∀ q ∈ r.queryList, q ∈ r'.queryList) : r.Holds figure user :=
  ⟨hne, fun q hq => h.2 q (hsub q hq)⟩

theorem holds_append_iff (hne : r.queryList ≠ []) (hne' : r'.queryList ≠ [])
    (happ : r''.queryList = r.queryList ++ r'.queryList) :
    r''.Holds figure user ↔ r.Holds figure user ∧ r'.Holds figure user := by
  simp only [Holds, happ, List.forall_mem_append]
  simp [hne, hne']

/-! ## Whether a rule matches -/

section

variable (hc : ∀ l s, (c.answer l s).1 = .ok (figure l)) (hf : SumsAreNumbers figure)
include hc hf

/-- A plain rule matches exactly if it holds, in every state of a provider whose figures are
fixed. -/
theorem run_matchesUser (user : Uuid) (h : r.IsPlain) (s : σ) :
    ∃ t, ((r.matchesUser user).run c s).1 = .ok t ∧ (t = true ↔ r.Holds figure user) := by
  have hyields : Program.Yields c (fun _ => True) (r.matchesUser user)
      ((r.matchesUser user).against (always figure)) :=
    Program.yields_against (fun l s _ => ⟨hc l s, trivial⟩) (fun _ _ _ => trivial) _
  rw [(hyields s trivial).1, matchesUser, Program.bind_eq, Program.against_bind]
  obtain ⟨-, result, hresult, hmatched⟩ | ⟨hreach, -⟩ :=
    against_evaluate_cases hf user fun q hq => (h q hq).1
  · rw [hresult]
    exact ⟨_, rfl, hmatched⟩
  · exact absurd hreach h.not_reachesOverlong

theorem run_matchesUser_eq_true_iff (h : r.IsPlain) (s : σ) :
    ((r.matchesUser user).run c s).1 = .ok true ↔ r.Holds figure user := by
  obtain ⟨t, ht, hholds⟩ := run_matchesUser hc hf user h s
  rw [ht, ← hholds, Except.ok.injEq]

theorem run_matchesUser_eq_false_iff (h : r.IsPlain) (s : σ) :
    ((r.matchesUser user).run c s).1 = .ok false ↔ ¬ r.Holds figure user := by
  obtain ⟨t, ht, hholds⟩ := run_matchesUser hc hf user h s
  rw [ht, ← hholds, Except.ok.injEq, Bool.not_eq_true]

/-- Plain rules that hold alike match alike. -/
theorem run_matchesUser_congr (h : r.IsPlain) (h' : r'.IsPlain)
    (hiff : r.Holds figure user ↔ r'.Holds figure user) (s s' : σ) :
    ((r.matchesUser user).run c s).1 = ((r'.matchesUser user).run c s').1 := by
  obtain ⟨t, ht, hholds⟩ := run_matchesUser hc hf user h s
  obtain ⟨t', ht', hholds'⟩ := run_matchesUser hc hf user h' s'
  rw [ht, ht', Bool.eq_iff_iff.mpr (hholds.trans (hiff.trans hholds'.symm))]

end

/-! ## Verdicts and lookups -/

/-- A query that does not hold of a user who has used a product of its type, or has not. -/
def contrary (used : Bool) : Query :=
  .ofTexts "USER_OF" ["DEBIT"] used

/-- A query that is rejected: it lacks its argument. -/
def incomplete : Query :=
  .ofTexts "USER_OF" [] false

theorem validate_contrary (used : Bool) :
    (contrary used).validate = .ok ⟨.userOf .debit, used⟩ := by
  cases used <;> rfl

theorem validate_incomplete : incomplete.validate = .error (Query.wrongCount .userOf 0) := rfl

/-- A rule of the two queries, in one order or the other. -/
def opposed (used : Bool) (incompleteFirst : Bool) : Rule :=
  Rule.sample (.str "Card") .null
    (if incompleteFirst then [incomplete, contrary used] else [contrary used, incomplete])

theorem isPlain_opposed (used incompleteFirst : Bool) : (opposed used incompleteFirst).IsPlain := by
  have hcontrary : (contrary used).IsText ∧ ¬ (contrary used).Overlong :=
    ⟨⟨_, _, rfl, rfl⟩, Query.not_overlong_of_ok (validate_contrary used)⟩
  have hincomplete : incomplete.IsText ∧ ¬ incomplete.Overlong := by
    refine ⟨⟨_, _, rfl, rfl⟩, fun hlong => ?_⟩
    have hv := validate_incomplete
    rw [Query.validate_of_overlong hlong] at hv
    cases hv
  intro q hq
  have hq' : q = contrary used ∨ q = incomplete := by
    cases incompleteFirst <;> simpa [opposed, Rule.sample, queryList, or_comm] using hq
  obtain rfl | rfl := hq'
  · exact hcontrary
  · exact hincomplete

theorem examine_contrary (hc : ∀ l s, (c.answer l s).1 = .ok (figure l)) (user : Uuid) (s : σ) :
    (contrary (figure (.usage user .debit)).truthy).examine c user s =
      (.decided .userOf false, [.asked (.usage user .debit) (.ok (figure (.usage user .debit)))],
        (c.answer (.usage user .debit) s).2) := by
  have hanswer : c.answer (.usage user .debit) s =
      (.ok (figure (.usage user .debit)), (c.answer (.usage user .debit) s).2) :=
    Prod.ext (hc _ s) rfl
  rw [Query.examine, validate_contrary]
  simp only [Condition.lookups, consult]
  rw [hanswer]
  simp [Except.map, Condition.decide?, Condition.operator]

/-- Where the query that does not hold comes first, the rule does not match, after a lookup. -/
theorem run_evaluate_contraryFirst (hc : ∀ l s, (c.answer l s).1 = .ok (figure l)) (user : Uuid)
    (s : σ) :
    ∃ e t, ((opposed (figure (.usage user .debit)).truthy false).evaluate user).run c.recording
        ⟨s, []⟩ = (.ok e, t) ∧ e.verdict = .notMatched ∧
      t.history = [.asked (.usage user .debit) (.ok (figure (.usage user .debit))),
        .recorded .notMatched] := by
  have hsplit : (opposed (figure (.usage user .debit)).truthy false).queryList =
      [] ++ contrary (figure (.usage user .debit)).truthy :: [incomplete] := rfl
  have hjudged := Judged.notMatched hsplit (.nil s) (examine_contrary hc user s)
  exact ⟨_, _, hjudged.run_evaluate, rfl, rfl⟩

/-- Where the query that is rejected comes first, the rule is malformed, and nothing is looked
up. -/
theorem run_evaluate_incompleteFirst (c : Program.Collaborator Judgement σ) (used : Bool)
    (user : Uuid) (s : σ) :
    ∃ e t, ((opposed used true).evaluate user).run c.recording ⟨s, []⟩ = (.ok e, t) ∧
      e.verdict = .malformed ∧ t.history = [.recorded .malformed] := by
  have hsplit : (opposed used true).queryList = [] ++ incomplete :: [contrary used] := rfl
  have hexamine : ∃ why, incomplete.examine c user s = (.rejected why, [], s) := ⟨_, rfl⟩
  obtain ⟨why, hwhy⟩ := hexamine
  have hjudged := Judged.malformed hsplit (.nil s) hwhy
  exact ⟨_, _, hjudged.run_evaluate, rfl, rfl⟩

/-- **Rules are conjunctions.**  Against a provider whose figures are fixed, whatever state it keeps
beside them, a plain rule matches a user exactly if it has queries, each of them is accepted, and
each of them holds.  So rules of the same queries match alike, in whatever order and how often the
queries stand; with queries added, a rule that has some and does not match still does not match; and
a rule of the queries of two others that have some matches exactly if both match.  The verdict and
what is looked up do depend on the order. -/
theorem rules_are_conjunctions (c : Program.Collaborator Judgement σ)
    (hc : ∀ l s, (c.answer l s).1 = .ok (figure l)) (hf : SumsAreNumbers figure) (user : Uuid) :
    (∀ (r : Rule) s, r.IsPlain → ∃ t, ((r.matchesUser user).run c s).1 = .ok t ∧
      (t = true ↔ r.queryList ≠ [] ∧ ∀ q ∈ r.queryList, ∃ clause, q.validate = .ok clause ∧
        clause.truth figure user = true)) ∧
    (∀ (r r' : Rule) s s', r.IsPlain → (∀ q, q ∈ r.queryList ↔ q ∈ r'.queryList) →
      ((r.matchesUser user).run c s).1 = ((r'.matchesUser user).run c s').1) ∧
    (∀ (r r' : Rule) s s', r'.IsPlain → r.queryList ≠ [] →
      (∀ q ∈ r.queryList, q ∈ r'.queryList) → ((r.matchesUser user).run c s).1 = .ok false →
      ((r'.matchesUser user).run c s').1 = .ok false) ∧
    (∀ (r r' r'' : Rule) s s' s'', r.IsPlain → r'.IsPlain → r.queryList ≠ [] →
      r'.queryList ≠ [] → r''.queryList = r.queryList ++ r'.queryList →
      (((r''.matchesUser user).run c s'').1 = .ok true ↔
        ((r.matchesUser user).run c s).1 = .ok true ∧
          ((r'.matchesUser user).run c s').1 = .ok true)) ∧
    (∀ s, ∃ (r r' : Rule) (e e' : Evaluation) (t t' : Recorded Judgement σ),
      r.IsPlain ∧ r.queryList.Perm r'.queryList ∧
      (r.evaluate user).run c.recording ⟨s, []⟩ = (.ok e, t) ∧
      (r'.evaluate user).run c.recording ⟨s, []⟩ = (.ok e', t') ∧
      e.verdict ≠ e'.verdict ∧
      t.history = [.asked (.usage user .debit) (.ok (figure (.usage user .debit))),
        .recorded e.verdict] ∧
      t'.history = [.recorded e'.verdict]) := by
  refine ⟨?_, ?_, ?_, ?_, ?_⟩
  · intro r s h
    exact run_matchesUser hc hf user h s
  · intro r r' s s' h hsame
    have h' := h.of_subset fun q hq => (hsame q).mpr hq
    exact run_matchesUser_congr hc hf h h' (holds_congr hsame) s s'
  · intro r r' s s' h' hne hsub hfalse
    have h := h'.of_subset hsub
    rw [run_matchesUser_eq_false_iff hc hf h] at hfalse
    rw [run_matchesUser_eq_false_iff hc hf h']
    exact fun hholds => hfalse (hholds.of_subset hne hsub)
  · intro r r' r'' s s' s'' h h' hne hne' happ
    rw [run_matchesUser_eq_true_iff hc hf h, run_matchesUser_eq_true_iff hc hf h',
      run_matchesUser_eq_true_iff hc hf (h.of_append h' happ), holds_append_iff hne hne' happ]
  · intro s
    obtain ⟨e, t, hrun, hverdict, hpast⟩ := run_evaluate_contraryFirst hc user s
    obtain ⟨e', t', hrun', hverdict', hpast'⟩ :=
      run_evaluate_incompleteFirst c (figure (.usage user .debit)).truthy user s
    refine ⟨opposed _ false, opposed _ true, e, e', t, t', isPlain_opposed _ _, .swap .., hrun,
      hrun', ?_, ?_, ?_⟩
    · rw [hverdict, hverdict']
      decide
    · rw [hpast, hverdict]
    · rw [hpast', hverdict']

/-- The figures of a user who uses every product and has moved ten on each. -/
def busy : Lookup → Json
  | .usage .. | .activity .. => .bool true
  | _ => .int 10

/-- A provider of these figures that counts what it is asked. -/
def busyProvider : Program.Collaborator Judgement Nat :=
  ⟨fun l s => (.ok (busy l), s + 1), fun _ s => s⟩

/-- Whether queries match this user, asked of the provider in a state of it. -/
def busyMatch (queries : List Query) (s : Nat) : Except Failure Bool :=
  (((Rule.sample (.str "Card") .null queries).matchesUser default).run busyProvider s).1

/-- A query that holds of this user. -/
def active : Query :=
  .ofTexts "ACTIVE_USER_OF" ["CREDIT"] false

theorem isPlain_active_contrary (used : Bool) :
    (Rule.sample (.str "Card") .null [active, contrary used]).IsPlain := by
  have hactive : active.validate = .ok ⟨.activeUserOf .credit, false⟩ := rfl
  rintro q (_ | ⟨_, _ | ⟨_, hq⟩⟩)
  · exact ⟨⟨_, _, rfl, rfl⟩, Query.not_overlong_of_ok hactive⟩
  · exact ⟨⟨_, _, rfl, rfl⟩, Query.not_overlong_of_ok (validate_contrary used)⟩
  · cases hq

theorem rules_are_conjunctions_busy :
    busyMatch [active, contrary false] 0 = busyMatch [contrary false, active, contrary false] 7 ∧
      busyMatch [active, contrary true] 5 = .ok false ∧
      busyMatch [active, contrary false] 0 = .ok true := by
  have hfigures : SumsAreNumbers busy := ⟨fun _ _ _ => rfl, fun _ _ => rfl, fun _ _ => rfl⟩
  obtain ⟨-, hsame, hmore, hboth, -⟩ :=
    rules_are_conjunctions busyProvider (fun _ _ => rfl) hfigures default
  refine ⟨?_, ?_, ?_⟩
  · refine hsame _ _ 0 7 (isPlain_active_contrary false) fun q => ?_
    grind [Rule.sample, queryList]
  · refine hmore (Rule.sample (.str "Card") .null [contrary true]) _ 0 5
      (isPlain_active_contrary true) nofun ?_ rfl
    simp [Rule.sample, queryList]
  · refine (hboth (Rule.sample (.str "Card") .null [active])
      (Rule.sample (.str "Card") .null [contrary false]) _ 1 2 0 ?_ ?_ nofun nofun rfl).mpr
      ⟨rfl, rfl⟩
    · refine (isPlain_active_contrary false).of_subset ?_
      simp [Rule.sample, queryList]
    · refine (isPlain_active_contrary false).of_subset ?_
      simp [Rule.sample, queryList]

end Rule

end Recommender
