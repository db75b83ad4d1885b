import Recommender.Proofs.Memo.Accounting

/-!
# The table of loads in flight

All that a memo knows of its loads is the table of those in flight.  When nothing is left to do, the
table is exact: it holds the loads that were begun since the last clearing and have not ended, each
under its key, and no load of an earlier generation.
-/

namespace Recommender

namespace Session

variable {V : Type} {events : List (SessionEvent V)}

/-- A load was begun by a request for a key, and the memo has not been cleared since. -/
def BegunSinceClear (events : List (SessionEvent V)) (key : String) (n : Nat) : Prop :=
  ∃ before during, events = before ++ .request key :: during ∧
    (reached before).Begins (.request key) key ∧ (reached before).loads.length = n ∧
    .clear ∉ during

/-- A load was begun since the last clearing, and has not ended. -/
structure Unsettled (events : List (SessionEvent V)) (key : String) (n : Nat) : Prop where
  begun : BegunSinceClear events key n
  outcome : (reached events).outcome? n = none

theorem begunSinceClear_iff {key : String} {n : Nat} :
    BegunSinceClear events key n ↔ (reached events).Current key n := by
  constructor
  · rintro ⟨before, during, rfl, hbegins, rfl, hclear⟩
    exact current_of_begins hbegins hclear
  · exact Current.exists_beginning

/-- When nothing is left to do, the loads in flight are those that have not ended. -/
theorem Quiet.find?_inFlight_iff (h : (reached events).Quiet) (key : String) (n : Nat) :
    Assoc.find? key (reached events).memo.inFlight = some n ↔ Unsettled events key n := by
  rw [(coherent_reached events).inFlight_iff, h.settlement?_eq, ← begunSinceClear_iff]
  exact ⟨fun hn => ⟨hn.1, hn.2⟩, fun hn => ⟨hn.begun, hn.outcome⟩⟩

/-- A load in flight belongs to the current generation. -/
theorem Coherent.ticket?_of_inFlight {s : Session V} (h : s.Coherent) {key : String} {n : Nat}
    (hn : Assoc.find? key s.memo.inFlight = some n) :
    ∃ t, s.ticket? n = some t ∧ t.key = key ∧ t.generation = s.memo.generation :=
  ((h.inFlight_iff key n).mp hn).1

/-- An unsettled load that is not in flight belongs to an earlier generation. -/
theorem Coherent.generation_lt {s : Session V} (h : s.Coherent) {n : Nat} {t : LoadTicket}
    (ht : s.ticket? n = some t) (hs : s.settlement? n = none)
    (hn : Assoc.find? t.key s.memo.inFlight ≠ some n) : t.generation < s.memo.generation := by
  refine Nat.lt_of_le_of_ne (h.generation_le n t ht) fun hg => hn ?_
  exact (h.inFlight_iff t.key n).mpr ⟨⟨t, ht, rfl, hg⟩, hs⟩

/-- **The table of loads in flight is exact**, whatever has happened in whatever order, once nothing
is left to do: under a key it holds a load exactly if the load was begun for this key since the last
clearing and has not ended, and there is at most one such load of a key; no key is both remembered
and being loaded; every load in flight belongs to the current generation, and every other load that
has not ended to an earlier one. -/
theorem loads_in_flight_are_exact (events : List (SessionEvent V))
    (hquiet : (reached events).Quiet) :
    (∀ key n, Assoc.find? key (reached events).memo.inFlight = some n ↔
      Unsettled events key n) ∧
    (Assoc.keys (reached events).memo.inFlight).Nodup ∧
    (∀ key n m, Unsettled events key n → Unsettled events key m → n = m) ∧
    (∀ key ∈ Assoc.keys (reached events).memo.inFlight,
      key ∉ Assoc.keys (reached events).memo.entries) ∧
    (∀ key n, Assoc.find? key (reached events).memo.inFlight = some n →
      ∃ t, (reached events).ticket? n = some t ∧ t.key = key ∧
        t.generation = (reached events).memo.generation) ∧
    (∀ n t, (reached events).ticket? n = some t → (reached events).outcome? n = none →
      (∀ key, Assoc.find? key (reached events).memo.inFlight ≠ some n) →
      t.generation < (reached events).memo.generation) := by
  have h := coherent_reached events
  refine ⟨hquiet.find?_inFlight_iff, h.nodup_inFlight, ?_, ?_, fun key n => h.ticket?_of_inFlight,
    ?_⟩
  · intro key n m hn hm
    rw [← hquiet.find?_inFlight_iff] at hn hm
    exact Option.some.inj (hn.symm.trans hm)
  · intro key hkey
    obtain ⟨n, hn⟩ := Option.isSome_iff_exists.mp (Assoc.isSome_find?_iff.mpr hkey)
    exact Assoc.find?_eq_none_iff.mp (h.find?_entries_of_inFlight hn)
  · intro n t ht hout hnone
    rw [← hquiet.settlement?_eq] at hout
    exact h.generation_lt ht hout (hnone t.key)

/-- A load goes on after the memo was cleared, while another one of its key is in flight and a third
one has settled. -/
def overlapping : List (SessionEvent Nat) :=
  [.request "k", .clear, .request "k", .request "j", .cancel 1, .complete 2 (.value 5), .settle 2,
    .resume 2]

theorem quiet_overlapping : (reached overlapping).Quiet := by
  refine (quiet_iff _).mpr ⟨?_, ?_⟩
  · rintro (_ | _ | _ | n) <;> rfl
  · rintro (_ | _ | _ | i) n h
    · cases h
      rfl
    all_goals cases h

theorem loads_in_flight_are_exact_overlapping :
    (reached overlapping).Quiet ∧ Unsettled overlapping "k" 1 ∧
      ¬ Unsettled overlapping "k" 0 ∧ (reached overlapping).outcome? 0 = none ∧
      "k" ∉ Assoc.keys (reached overlapping).memo.entries ∧
      ∃ t, (reached overlapping).ticket? 0 = some t ∧
        t.generation < (reached overlapping).memo.generation := by
  obtain ⟨htable, -, hunique, hdisjoint, -, holder⟩ :=
    loads_in_flight_are_exact overlapping quiet_overlapping
  have hinFlight : (reached overlapping).memo.inFlight = [("k", 1)] := rfl
  have hk : Unsettled overlapping "k" 1 := (htable "k" 1).mp rfl
  refine ⟨quiet_overlapping, hk, fun h => ?_, rfl, hdisjoint "k" (by decide), _, rfl,
    holder 0 _ rfl rfl fun key h => ?_⟩
  · cases hunique "k" 0 1 h hk
  · rw [hinFlight, Assoc.find?] at h
    split at h <;> cases h

end Session

end Recommender
