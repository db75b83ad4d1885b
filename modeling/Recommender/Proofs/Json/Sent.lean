import Recommender.Http.Body
import Recommender.Proofs.Json.Written

/-!
# What is sent is received

A string of the model is the writing of a text: where the text holds half of a surrogate pair, two
characters stand for it.  Such a text cannot be sent.  The written form of a legible value holds no
half, so it has octets; those of an object tell that they are UTF-8, and whoever receives them reads
the value that was sent.
-/

namespace Recommender

/-- A string is the writing of a text. -/
def IsText (s : String) : Prop :=
  textOfPoints (codePoints s) = s

instance : DecidablePred IsText := fun s =>
  inferInstanceAs (Decidable (textOfPoints (codePoints s) = s))

/-! ## Texts of characters -/

/-- Characters without the mark are written as themselves. -/
theorem writingOfAll_of_notMem {cs : List Char} (h : halfMark ∉ cs) :
    writingOfAll (cs.map Char.toNat) = cs := by
  induction cs with
  | nil => rfl
  | cons c cs ih =>
    rw [List.mem_cons, not_or] at h
    have hmark : c.toNat ≠ halfMark.toNat := fun heq => h.1 (Char.toNat_inj.mp heq).symm
    have hc : writingOf c.toNat = [c] := by
      have hhalf : isHalf c.toNat = false := isHalf_of_isValidChar c.valid
      rw [writingOf, hhalf, if_neg Bool.false_ne_true, if_neg hmark, Char.ofNat_toNat]
    rw [List.map_cons, writingOfAll, List.flatMap_cons, hc, List.singleton_append]
    exact congrArg (c :: ·) (ih h.2)

theorem textOfCharacters_of_notMem {s : String} (h : halfMark ∉ s.toList) :
    textOfCharacters s = s := by
  rw [textOfCharacters, textOfPoints, writingOfAll_of_notMem h, String.ofList_toList]

theorem lt_of_mem_pointsOf {cs : List Char} : ∀ point ∈ pointsOf cs, point < 0x110000 := by
  have hchar (c : Char) : c.toNat < 0x110000 := lt_of_isValidChar c.valid
  fun_induction pointsOf cs with
  | case1 d rest ih =>
    refine List.forall_mem_cons.mpr ⟨?_, ih⟩
    have := hchar d
    rw [markedPoint, firstStandIn]
    split
    · decide
    · omega
  | case2 c d rest hc ih => exact List.forall_mem_cons.mpr ⟨hchar c, ih⟩
  | case3 c => exact List.forall_mem_singleton.mpr (hchar c)
  | case4 => exact List.forall_mem_nil _

/-- A code point that is no half is a character. -/
theorem isValidChar_of_isHalf {point : Nat} (hhalf : isHalf point = false)
    (hlt : point < 0x110000) : point.isValidChar := by
  simp only [isHalf, isHighUnit, isLowUnit, Bool.or_eq_false_iff, Bool.and_eq_false_iff,
    decide_eq_false_iff_not] at hhalf
  unfold Nat.isValidChar
  omega

theorem hasHalf_textOfCharacters (s : String) : hasHalf (textOfCharacters s) = false := by
  rw [hasHalf, codePoints_textOfCharacters, List.any_eq_false]
  intro point hpoint
  rw [isHalf_of_isValidChar (isValidChar_of_mem_toNat point hpoint)]
  exact Bool.false_ne_true

/-- A text that holds no half is made of characters. -/
theorem IsText.exists_characters {s : String} (h : IsText s) (hwhole : hasHalf s = false) :
    ∃ t, s = textOfCharacters t := by
  refine ⟨String.ofList ((codePoints s).map Char.ofNat), ?_⟩
  have hpoints : ((codePoints s).map Char.ofNat).map Char.toNat = codePoints s := by
    rw [hasHalf, List.any_eq_false] at hwhole
    rw [List.map_map]
    refine (List.map_congr_left fun point hpoint => ?_).trans (List.map_id _)
    exact toNat_ofNat (isValidChar_of_isHalf (Bool.eq_false_iff.mpr (hwhole point hpoint))
      (lt_of_mem_pointsOf point hpoint))
  rw [textOfCharacters, String.toList_ofList, hpoints, h]

/-! ## Written values -/

namespace Json

theorem Legible.ofText {room : Nat} {s : String} (h : ∃ t, s = textOfCharacters t) :
    Legible room (.str s) := by
  obtain ⟨t, rfl⟩ := h
  exact .str t

/-- An object whose keys do without the mark is legible if its values are. -/
theorem Legible.ofMembers {room : Nat} {members : List (String × Json)}
    (hkeys : (Assoc.keys members).Nodup)
    (h : ∀ m ∈ members, halfMark ∉ m.1.toList ∧ Legible room m.2) :
    Legible (room + 1) (.obj members) :=
  .obj hkeys (fun m hm => ⟨m.1, (textOfCharacters_of_notMem (h m hm).1).symm⟩)
    fun m hm => (h m hm).2

/-- Characters that write characters only, and no half. -/
def AreWhole (cs : List Char) : Prop :=
  ∃ t : List Char, cs = writingOfAll (t.map Char.toNat)

theorem AreWhole.of_notMem {cs : List Char} (h : halfMark ∉ cs) : AreWhole cs :=
  ⟨cs, (writingOfAll_of_notMem h).symm⟩

theorem AreWhole.append {cs ds : List Char} (hc : AreWhole cs) (hd : AreWhole ds) :
    AreWhole (cs ++ ds) := by
  obtain ⟨s, rfl⟩ := hc
  obtain ⟨t, rfl⟩ := hd
  exact ⟨s ++ t, by simp [writingOfAll]⟩

theorem AreWhole.cons {c : Char} (hc : c ≠ halfMark) {cs : List Char} (h : AreWhole cs) :
    AreWhole (c :: cs) := by
  have hfirst : AreWhole [c] := .of_notMem (by simpa using hc.symm)
  exact hfirst.append h

theorem AreWhole.hasHalf_eq {cs : List Char} (h : AreWhole cs) :
    hasHalf (String.ofList cs) = false := by
  obtain ⟨t, rfl⟩ := h
  have htext := hasHalf_textOfCharacters (String.ofList t)
  rwa [textOfCharacters, String.toList_ofList] at htext

theorem halfMark_notMem_unitEscape {unit : Nat} (h : unit < 0x10000) :
    halfMark ∉ unitEscape unit := by
  have hdigit : ∀ d < 16, halfMark ≠ d.digitChar := by decide
  rw [unitEscape, hexPadded_four h]
  simp only [List.mem_cons, List.not_mem_nil, or_false, not_or]
  exact ⟨by decide, by decide, hdigit _ (by omega), hdigit _ (by omega), hdigit _ (by omega),
    hdigit _ (by omega)⟩

/-- An escape is written in ASCII. -/
theorem halfMark_notMem_pointEscape {point : Nat} (h : point < 0x110000) :
    halfMark ∉ pointEscape point := by
  obtain ⟨letter, hwritten, hletter, -⟩ | ⟨hlt, hwritten⟩ | ⟨hge, hwritten⟩ :=
    pointEscape_cases point
  · have hmark : halfMark ≠ letter := by
      rintro rfl
      cases hletter
    rw [hwritten]
    simp only [List.mem_cons, List.not_mem_nil, or_false, not_or]
    exact ⟨by decide, hmark⟩
  · rw [hwritten]
    exact halfMark_notMem_unitEscape hlt
  · rw [hwritten, List.mem_append, not_or]
    exact ⟨halfMark_notMem_unitEscape (by omega), halfMark_notMem_unitEscape (by omega)⟩

theorem areWhole_writeString (layout : Layout) (s : String) :
    AreWhole (writeString layout (textOfCharacters s)) := by
  have hpoints : ∀ points : List Nat, (∀ point ∈ points, point.isValidChar) →
      AreWhole (points.flatMap (writePoint layout)) := by
    intro points
    induction points with
    | nil => exact fun _ => .of_notMem List.not_mem_nil
    | cons point points ih =>
      intro h
      rw [List.forall_mem_cons] at h
      refine .append ?_ (ih h.2)
      rw [writePoint]
      split
      · exact ⟨[Char.ofNat point], by simp [writingOfAll, toNat_ofNat h.1]⟩
      · exact .of_notMem (halfMark_notMem_pointEscape (lt_of_isValidChar h.1))
  rw [writeString, codePoints_textOfCharacters]
  exact .cons (by decide) (.append (hpoints _ isValidChar_of_mem_toNat)
    (.of_notMem (by decide)))

theorem areWhole_toString (n : Int) : AreWhole (toString n).toList := by
  refine .of_notMem fun hmem => ?_
  have hdigits : halfMark ∉ Nat.toDigits 10 n.natAbs := by
    intro hdigit
    cases isAsciiDigit_of_mem_toDigits hdigit
  rw [Numeral.toList_toString] at hmem
  split at hmem
  · exact hdigits ((List.mem_cons.mp hmem).resolve_left (by decide))
  · exact hdigits hmem

theorem areWhole_gap (layout : Layout) : AreWhole layout.gap := by
  cases layout <;> exact .of_notMem (by decide)

theorem areWhole_writeItems {layout : Layout} {vs : List Json}
    (h : ∀ v ∈ vs, AreWhole (v.write layout)) : AreWhole (writeItems layout vs) := by
  induction vs with
  | nil => exact .of_notMem (by rw [writeItems]; decide)
  | cons v vs ih =>
    rw [List.forall_mem_cons] at h
    exact .cons (by decide) (.append (areWhole_gap layout) (.append h.1 (ih h.2)))

theorem areWhole_member {layout : Layout} {key value : List Char} (hkey : AreWhole key)
    (hvalue : AreWhole value) : AreWhole (key ++ ':' :: (layout.gap ++ value)) :=
  .append hkey (.cons (by decide) (.append (areWhole_gap layout) hvalue))

theorem areWhole_writeMembers {layout : Layout} {ms : List (String × Json)}
    (hkeys : ∀ m ∈ ms, AreWhole (writeString layout m.1))
    (h : ∀ m ∈ ms, AreWhole (m.2.write layout)) : AreWhole (writeMembers layout ms) := by
  induction ms with
  | nil => exact .of_notMem (by rw [writeMembers]; decide)
  | cons m ms ih =>
    rw [List.forall_mem_cons] at hkeys h
    exact .cons (by decide) (.append (areWhole_gap layout)
      (areWhole_member hkeys.1 (.append h.1 (ih hkeys.2 h.2))))

/-- The written form of a legible value holds no half. -/
theorem areWhole_write (layout : Layout) {room : Nat} {v : Json} (h : Legible room v) :
    AreWhole (v.write layout) := by
  induction h with
  | null => exact .of_notMem (by rw [write]; decide)
  | bool b => cases b <;> exact .of_notMem (by rw [write]; decide)
  | int _ => exact areWhole_toString _
  | str s => exact areWhole_writeString layout s
  | @arr _ items _ ih =>
    cases items with
    | nil => exact .of_notMem (by rw [write]; decide)
    | cons v vs =>
      rw [List.forall_mem_cons] at ih
      exact .cons (by decide) (.append ih.1 (areWhole_writeItems ih.2))
  | @obj _ members _ htexts _ ih =>
    have hkeys : ∀ m ∈ members, AreWhole (writeString layout m.1) := by
      intro m hm
      obtain ⟨s, hs⟩ := htexts m hm
      rw [hs]
      exact areWhole_writeString layout s
    cases members with
    | nil => exact .of_notMem (by rw [write]; decide)
    | cons m ms =>
      rw [List.forall_mem_cons] at hkeys ih
      exact .cons (by decide)
        (areWhole_member hkeys.1 (.append ih.1 (areWhole_writeMembers hkeys.2 ih.2)))

/-! ## Octets -/

/-- A text that begins as an object is taken for UTF-8. -/
theorem charactersOf_object {cs : List Char}
    (h : hasHalf (String.ofList ('\x7b' :: '"' :: cs)) = false) :
    Encoding.charactersOf (String.ofList ('\x7b' :: '"' :: cs)) = some ('\x7b' :: '"' :: cs) := by
  obtain ⟨points, hpoints⟩ : ∃ points, pointsOf ('"' :: cs) = 0x22 :: points := by
    cases cs with
    | nil => exact ⟨[], rfl⟩
    | cons c cs => exact ⟨pointsOf (c :: cs), rfl⟩
  have hcodes : codePoints (String.ofList ('\x7b' :: '"' :: cs)) = 0x7B :: 0x22 :: points := by
    rw [codePoints, String.toList_ofList, ← hpoints]
    rfl
  have hutf8 (octets : List UInt8) : Encoding.ofOctets (0x7B :: 0x22 :: octets) = .utf8 := by
    cases octets with
    | nil => rfl
    | cons a octets => cases octets <;> rfl
  have hoctets : octetsOf? (String.ofList ('\x7b' :: '"' :: cs)) = some (0x7B :: 0x22 ::
      points.flatMap fun point => String.utf8EncodeChar (Char.ofNat point)) := by
    rw [octetsOf?, h, if_neg Bool.false_ne_true, hcodes]
    rfl
  rw [Encoding.charactersOf, hoctets, Option.bind_some, hutf8, Encoding.reread,
    String.toList_ofList]
  rfl

/-- **What is sent is received**: an object that has members, sent as a text, is read as itself. -/
theorem readJson_of_sent {m : String × Json} {ms : List (String × Json)}
    (h : Legible maxNesting (.obj (m :: ms))) {s : String}
    (hs : (Json.obj (m :: ms)).sent? = some s) : Http.readJson s = .json (.obj (m :: ms)) := by
  obtain ⟨cs, hcs⟩ : ∃ cs, (Json.obj (m :: ms)).write .dense = '\x7b' :: '"' :: cs := ⟨_, rfl⟩
  have hwritten : String.ofList ((Json.obj (m :: ms)).write .dense) = s := by
    rw [sent?] at hs
    split at hs
    · exact Option.some.inj hs
    · cases hs
  have hwhole := (areWhole_write .dense h).hasHalf_eq
  have hread := readWithin_write .dense h
  rw [hcs] at hwhole hread
  rw [← hwritten, hcs, Http.readJson, charactersOf_object hwhole, Option.map_some, hread]

theorem sent?_eq_none_iff {v : Json} : v.sent? = none ↔ v.isSendable = false := by
  rw [sent?]
  cases v.isSendable <;> simp

end Json

end Recommender
