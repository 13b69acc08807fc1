import BidAdapter.Proofs.Text.Integers
import BidAdapter.Proofs.Text.Splitting
import BidAdapter.Proofs.Text.Trimming
import BidAdapter.Slot.AdSlot

/-!
# The grammar of ad slots

* `Tagged`, `Sides`, `Literals` : a tag and a size, the two sides of a size, and the numbers that the sides spell;
* `Reads` : what is read of an ad slot, by its parts; `Reads.parse_eq`, `exists_reads` : `parse` reads this, and nothing
  else;
* `parse_spelled` : a slot that is spelled from a tag and two numbers is read back;
* `parse_grammar` : the grammar as a whole.
-/

namespace BidAdapter.AdSlot

set_option autoImplicit false

open Json (intChars)
open Text (Halves int32? isBlank trimChars)

variable {s : String} {banner : Bool} {t tag size width height : List Char} {w h : Int32}

/-! ## The parts of an ad slot -/

/-- A text is a tag and a size, neither of them blank, with `@` between them and any number of `@` behind them. -/
structure Tagged (t tag size : List Char) : Prop extends Halves '@' t tag size where
  tag_ne : ∃ c ∈ tag, isBlank c = false
  size_ne : ∃ c ∈ size, isBlank c = false

/-- A size is a width and a height with the letter `x` of either case between them and any number of it behind them. -/
structure Sides (size width height : List Char) : Prop extends
    Halves 'x' ((trimChars size).map Char.toLower) width height where
  height_ne : height ≠ []

/-- The numbers that the sides spell; what follows a colon does not belong to the height. -/
structure Literals (width height : List Char) (w h : Int32) : Prop where
  width : int32? (trimChars width) = some w
  height : int32? (trimChars (height.takeWhile (· ≠ ':'))) = some h

/-- What is read of an ad slot, with or without a banner. -/
inductive Reads (s : String) : Bool → Except Problem (Option AdSlot) → Prop
  | blank {banner : Bool} (hblank : trimChars s.toList = []) : Reads s banner (.ok none)
  | plain {banner : Bool} (hne : trimChars s.toList ≠ []) (hat : '@' ∉ trimChars s.toList) :
      Reads s banner (.ok (some ⟨Text.trim s, none⟩))
  | malformed {banner : Bool} (hat : '@' ∈ trimChars s.toList)
      (hnone : ∀ tag size, ¬Tagged (trimChars s.toList) tag size) : Reads s banner (.error (.adSlot (Text.trim s)))
  | unsized {tag size : List Char} (htag : Tagged (trimChars s.toList) tag size) :
      Reads s false (.ok (some ⟨String.ofList (trimChars tag), none⟩))
  | noSides {tag size : List Char} (htag : Tagged (trimChars s.toList) tag size)
      (hnone : ∀ width height, ¬Sides size width height) : Reads s true (.error (.adSlotSize (Text.trim s)))
  | noWidth {tag size width height : List Char} (htag : Tagged (trimChars s.toList) tag size)
      (hsides : Sides size width height) (hwidth : int32? (trimChars width) = none) :
      Reads s true (.error (.adSlotWidth s))
  | noHeight {tag size width height : List Char} {w : Int32} (htag : Tagged (trimChars s.toList) tag size)
      (hsides : Sides size width height) (hwidth : int32? (trimChars width) = some w)
      (hheight : int32? (trimChars (height.takeWhile (· ≠ ':'))) = none) : Reads s true (.error (.adSlotHeight s))
  | sized {tag size width height : List Char} {w h : Int32} (htag : Tagged (trimChars s.toList) tag size)
      (hsides : Sides size width height) (hliterals : Literals width height w h) :
      Reads s true (.ok (some ⟨String.ofList (trimChars tag),
        some ⟨if w = 0 then none else some w, if h = 0 then none else some h⟩⟩))

/-! ## Parts that are found -/

theorem tagged_iff :
    Tagged t tag size ↔ Text.split '@' t = [tag, size] ∧ trimChars tag ≠ [] ∧ trimChars size ≠ [] := by
  rw [Text.trimChars_ne_nil_iff, Text.trimChars_ne_nil_iff, Text.split_eq_pair_iff]
  constructor
  · intro h
    obtain ⟨c, hc, -⟩ := h.size_ne
    exact ⟨⟨h.toHalves, List.ne_nil_of_mem hc⟩, h.tag_ne, h.size_ne⟩
  · rintro ⟨⟨hhalves, -⟩, htag, hsize⟩
    exact ⟨hhalves, htag, hsize⟩

theorem sides_iff : Sides size width height ↔ Text.split 'x' ((trimChars size).map Char.toLower) = [width, height] := by
  rw [Text.split_eq_pair_iff]
  exact ⟨fun h => ⟨h.toHalves, h.height_ne⟩, fun h => ⟨h.1, h.2⟩⟩

theorem Tagged.at_mem (h : Tagged t tag size) : '@' ∈ t := by
  obtain ⟨k, hk⟩ := h.text
  simp [hk]

theorem Tagged.ne_nil (h : Tagged t tag size) : t ≠ [] := List.ne_nil_of_mem h.at_mem

/-! ## What is read of a size -/

theorem parseSize_noSides (trimmed raw : String) (h : ∀ width height, ¬Sides size width height) :
    parseSize (trimChars size) trimmed raw = .error (.adSlotSize trimmed) := by
  unfold parseSize
  split
  · next width height hsplit => exact absurd (sides_iff.mpr hsplit) (h width height)
  · rfl

theorem parseSize_noWidth (trimmed raw : String) (h : Sides size width height)
    (hwidth : int32? (trimChars width) = none) :
    parseSize (trimChars size) trimmed raw = .error (.adSlotWidth raw) := by
  unfold parseSize
  simp only [sides_iff.mp h, hwidth]

theorem parseSize_noHeight (trimmed raw : String) (h : Sides size width height)
    (hwidth : int32? (trimChars width) = some w) (hheight : int32? (trimChars (height.takeWhile (· ≠ ':'))) = none) :
    parseSize (trimChars size) trimmed raw = .error (.adSlotHeight raw) := by
  unfold parseSize
  simp only [sides_iff.mp h, hwidth, hheight]

theorem parseSize_sized (trimmed raw : String) (hsides : Sides size width height) (hn : Literals width height w h) :
    parseSize (trimChars size) trimmed raw =
      .ok ⟨if w = 0 then none else some w, if h = 0 then none else some h⟩ := by
  unfold parseSize
  simp only [sides_iff.mp hsides, hn.width, hn.height, nonZero]

/-! ## What is read of an ad slot -/

theorem parse_blank (h : trimChars s.toList = []) : parse (some s) banner = .ok none := by
  unfold parse
  simp only [Option.getD_some, h, List.isEmpty_nil, if_true]

theorem parse_plain (hne : trimChars s.toList ≠ []) (hat : '@' ∉ trimChars s.toList) :
    parse (some s) banner = .ok (some ⟨Text.trim s, none⟩) := by
  unfold parse
  simp [hne, hat, Text.trim]

theorem parse_malformed (hat : '@' ∈ trimChars s.toList) (hnone : ∀ tag size, ¬Tagged (trimChars s.toList) tag size) :
    parse (some s) banner = .error (.adSlot (Text.trim s)) := by
  have hne : trimChars s.toList ≠ [] := List.ne_nil_of_mem hat
  unfold parse
  simp only [Option.getD_some, List.isEmpty_iff, hne, if_false, List.contains_iff_mem.mpr hat, Bool.not_true,
    Bool.false_eq_true]
  split
  · next tag size hsplit =>
    have hblank : trimChars tag = [] ∨ trimChars size = [] := by
      by_contra hfilled
      rw [not_or] at hfilled
      exact hnone tag size (tagged_iff.mpr ⟨hsplit, hfilled⟩)
    rw [if_pos (by simpa using hblank)]
    rfl
  · rfl

theorem parse_tagged (h : Tagged (trimChars s.toList) tag size) :
    parse (some s) banner =
      if banner then do
        let sides ← parseSize (trimChars size) (Text.trim s) s
        return some ⟨String.ofList (trimChars tag), some sides⟩
      else .ok (some ⟨String.ofList (trimChars tag), none⟩) := by
  obtain ⟨hsplit, htag, hsize⟩ := tagged_iff.mp h
  have hfilled : ((trimChars tag).isEmpty || (trimChars size).isEmpty) = false := by simp [htag, hsize]
  unfold parse
  simp only [Option.getD_some, List.isEmpty_iff, h.ne_nil, if_false, List.contains_iff_mem.mpr h.at_mem, Bool.not_true,
    Bool.false_eq_true, hsplit, hfilled]
  rfl

theorem Reads.parse_eq {r : Except Problem (Option AdSlot)} (hr : Reads s banner r) : parse (some s) banner = r := by
  cases hr with
  | blank hblank => exact parse_blank hblank
  | plain hne hat => exact parse_plain hne hat
  | malformed hat hnone => exact parse_malformed hat hnone
  | unsized htag => rw [parse_tagged htag]; rfl
  | noSides htag hnone => rw [parse_tagged htag, parseSize_noSides _ _ hnone]; rfl
  | noWidth htag hsides hwidth => rw [parse_tagged htag, parseSize_noWidth _ _ hsides hwidth]; rfl
  | noHeight htag hsides hwidth hheight =>
    rw [parse_tagged htag, parseSize_noHeight _ _ hsides hwidth hheight]
    rfl
  | sized htag hsides hliterals => rw [parse_tagged htag, parseSize_sized _ _ hsides hliterals]; rfl

/-- Something is read of every ad slot. -/
theorem exists_reads (s : String) (banner : Bool) : ∃ r, Reads s banner r := by
  by_cases hblank : trimChars s.toList = []
  · exact ⟨_, .blank hblank⟩
  by_cases hat : '@' ∈ trimChars s.toList
  swap
  · exact ⟨_, .plain hblank hat⟩
  by_cases htagged : ∃ tag size, Tagged (trimChars s.toList) tag size
  swap
  · exact ⟨_, .malformed hat fun tag size h => htagged ⟨tag, size, h⟩⟩
  obtain ⟨tag, size, htag⟩ := htagged
  cases banner with
  | false => exact ⟨_, .unsized htag⟩
  | true =>
    by_cases hsides : ∃ width height, Sides size width height
    swap
    · exact ⟨_, .noSides htag fun width height h => hsides ⟨width, height, h⟩⟩
    obtain ⟨width, height, hsides⟩ := hsides
    cases hwidth : int32? (trimChars width) with
    | none => exact ⟨_, .noWidth htag hsides hwidth⟩
    | some w =>
      cases hheight : int32? (trimChars (height.takeWhile (· ≠ ':'))) with
      | none => exact ⟨_, .noHeight htag hsides hwidth hheight⟩
      | some h => exact ⟨_, .sized htag hsides ⟨hwidth, hheight⟩⟩

theorem parse_eq_iff {slot : Option String} {r : Except Problem (Option AdSlot)} :
    parse slot banner = r ↔ Reads (slot.getD "") banner r := by
  have hslot : parse slot banner = parse (some (slot.getD "")) banner := by
    cases slot with
    | none => rfl
    | some s => rfl
  obtain ⟨r', hr'⟩ := exists_reads (slot.getD "") banner
  rw [hslot]
  constructor
  · rintro rfl
    rwa [hr'.parse_eq]
  · exact Reads.parse_eq

/-- Separators at the end are no parts. -/
example : parse (some " slot@300x0:1xx@@ ") true = .ok (some ⟨"slot", some ⟨some 300, none⟩⟩) := by rfl

/-- The tag is the same with and without a banner. -/
theorem parse_false {slot : Option String} {a : Option AdSlot} (h : parse slot true = .ok a) :
    parse slot false = .ok (a.map fun a => { a with size := none }) := by
  rw [parse_eq_iff] at h ⊢
  cases h with
  | blank hblank => exact .blank hblank
  | plain hne hat => exact .plain hne hat
  | sized htag hsides hliterals => exact .unsized htag

/-- The size in an ad slot is that of two numbers, of which a zero is none; without a banner there is none. -/
theorem size_of_parse {s : Option String} {hasBanner : Bool} {slot : Option AdSlot} {size : SlotSize}
    (h : parse s hasBanner = .ok slot) (hsize : slot.bind AdSlot.size = some size) :
    hasBanner = true ∧ ∃ w h : Int32, size = ⟨if w = 0 then none else some w, if h = 0 then none else some h⟩ := by
  cases parse_eq_iff.mp h with
  | blank hblank => cases hsize
  | plain hne hat => cases hsize
  | unsized htag => cases hsize
  | sized htag hsides hliterals =>
    cases hsize
    exact ⟨rfl, _, _, rfl⟩

/-- An ad slot gives a tag exactly when it is not blank. -/
theorem eq_none_iff_blank {s : Option String} {hasBanner : Bool} {slot : Option AdSlot}
    (h : parse s hasBanner = .ok slot) : slot = none ↔ Text.blank (s.getD "") = true := by
  have hblank : Text.blank (s.getD "") = true ↔ Text.trimChars (s.getD "").toList = [] := by
    rw [Text.trimChars_eq_nil_iff, Text.blank, List.all_eq_true]
  rw [hblank]
  cases parse_eq_iff.mp h with
  | blank hblank => simp [hblank]
  | plain hne hat => simp [hne]
  | unsized htag => simp [htag.ne_nil]
  | sized htag hsides hliterals => simp [htag.ne_nil]

/-! ## Slots that are spelled -/

/-- An ad slot of a tag, two numbers, the letter between them, and what follows the colon. -/
def spelled (tag : List Char) (w h : Int32) (x : Char) (suffix : List Char) : List Char :=
  tag ++ '@' :: (intChars w.toInt ++ x :: intChars h.toInt ++ ':' :: suffix)

/-- A tag without blanks around it, the letter `x` of either case, and a suffix that has no separator. -/
structure Spelling (tag : List Char) (x : Char) (suffix : List Char) : Prop where
  tag_ne : tag ≠ []
  tag_trimmed : trimChars tag = tag
  tag_free : '@' ∉ tag
  letter : x = 'x' ∨ x = 'X'
  suffix_free : ∀ c ∈ suffix, c ≠ '@' ∧ c ≠ 'x' ∧ c ≠ 'X'

theorem toLower_of_not_upper {c : Char} (h : ¬(c.val ≥ 'A'.val ∧ c.val ≤ 'Z'.val)) : c.toLower = c := dif_neg h

theorem eq_of_toLower_eq_x {c : Char} (h : c.toLower = 'x') : c = 'x' ∨ c = 'X' := by
  by_cases hupper : c.val ≥ 'A'.val ∧ c.val ≤ 'Z'.val
  · have hlower : c.toLower.val = c.val + ('a'.val - 'A'.val) := congrArg Char.val (dif_pos hupper)
    have hval : c.val + ('a'.val - 'A'.val) = 'X'.val + ('a'.val - 'A'.val) := by
      rw [← hlower, h]
      rfl
    exact Or.inr (Char.ext ((UInt32.add_left_inj _).mp hval))
  · rw [toLower_of_not_upper hupper] at h
    exact Or.inl h

theorem toLower_of_toNat_lt {c : Char} (h : c.toNat < 65) : c.toLower = c := by
  apply toLower_of_not_upper
  rintro ⟨hle, -⟩
  have hle' : 65 ≤ c.toNat := UInt32.le_iff_toNat_le.mp hle
  omega

theorem not_mem_intChars {n : Int} {c : Char} (h : 57 < c.toNat) : c ∉ intChars n := by
  intro hmem
  have hrange := Text.toNat_of_mem_intChars hmem
  omega

theorem isBlank_of_mem_intChars {n : Int} {c : Char} (h : c ∈ intChars n) : isBlank c = false := by
  have hrange := Text.toNat_of_mem_intChars h
  rw [← Bool.not_eq_true]
  intro hblank
  simp only [isBlank, Bool.or_eq_true, Bool.and_eq_true, decide_eq_true_eq, beq_iff_eq] at hblank
  omega

theorem literal_intChars (n : Int32) : int32? (trimChars (intChars n.toInt)) = some n := by
  rw [Text.trimChars_of_not_blank fun c hc => isBlank_of_mem_intChars hc, Text.int32?_intChars]

theorem map_toLower_intChars (n : Int) : (intChars n).map Char.toLower = intChars n := by
  refine (List.map_congr_left fun c hc => ?_).trans (List.map_id _)
  have hrange := Text.toNat_of_mem_intChars hc
  exact toLower_of_toNat_lt (by omega)

/-- A spelled size has its sides, also where the blanks behind it are gone. -/
theorem sides_spelled {x : Char} {suffix : List Char} (w h : Int) (hx : x = 'x' ∨ x = 'X')
    (hsuffix : ∀ c ∈ suffix, c ≠ 'x' ∧ c ≠ 'X') :
    Sides (intChars w ++ x :: intChars h ++ ':' :: suffix) (intChars w)
      (intChars h ++ ':' :: (suffix.rdropWhile isBlank).map Char.toLower) := by
  have hletter : x.toLower = 'x' ∧ isBlank x = false := by rcases hx with rfl | rfl <;> decide
  have hfront : (intChars w ++ x :: intChars h).dropWhile isBlank = intChars w ++ x :: intChars h := by
    apply Text.dropWhile_of_not_blank
    intro c hc
    rcases List.mem_append.mp hc with hc | hc
    · exact isBlank_of_mem_intChars hc
    · rcases List.mem_cons.mp hc with rfl | hc
      · exact hletter.2
      · exact isBlank_of_mem_intChars hc
  have hlower : 'x' ∉ (suffix.rdropWhile isBlank).map Char.toLower := by
    intro hmem
    obtain ⟨c, hc, hx⟩ := List.mem_map.mp hmem
    have hfree := hsuffix c ((List.rdropWhile_prefix isBlank suffix).subset hc)
    exact (eq_of_toLower_eq_x hx).elim hfree.1 hfree.2
  have hheight : 'x' ∉ intChars h := not_mem_intChars (by decide)
  refine ⟨⟨not_mem_intChars (by decide), ?_, 0, ?_⟩, by simp⟩
  · simp [hheight, hlower]
  · rw [Text.trimChars_append_cons hfront (by decide)]
    simp [map_toLower_intChars, hletter.1]

theorem literals_spelled (w h : Int32) (suffix : List Char) :
    Literals (intChars w.toInt) (intChars h.toInt ++ ':' :: suffix) w h := by
  have hcolon : ∀ c ∈ intChars h.toInt, decide (c ≠ ':') = true := by
    intro c hc
    have hne : c ≠ ':' := by
      rintro rfl
      exact not_mem_intChars (by decide) hc
    exact decide_eq_true hne
  refine ⟨literal_intChars w, ?_⟩
  rw [List.takeWhile_append_of_pos hcolon, List.takeWhile_cons_of_neg (by decide), List.append_nil]
  exact literal_intChars h

/-- The blanks behind a spelled slot are those behind its suffix. -/
theorem trimChars_spelled {x : Char} {suffix : List Char} (w h : Int32) (hs : Spelling tag x suffix) :
    trimChars (spelled tag w h x suffix) = spelled tag w h x (suffix.rdropWhile isBlank) := by
  have hfront : (tag ++ '@' :: (intChars w.toInt ++ x :: intChars h.toInt)).dropWhile isBlank =
      tag ++ '@' :: (intChars w.toInt ++ x :: intChars h.toInt) := by
    rw [List.dropWhile_append, Text.dropWhile_of_trimmed hs.tag_trimmed, if_neg (by simp [hs.tag_ne])]
  have hcolon : ∀ suffix, spelled tag w h x suffix =
      tag ++ '@' :: (intChars w.toInt ++ x :: intChars h.toInt) ++ ':' :: suffix := by simp [spelled]
  rw [hcolon, hcolon, Text.trimChars_append_cons hfront (by decide)]

theorem tagged_spelled {x : Char} {suffix : List Char} (w h : Int32) (hs : Spelling tag x suffix) :
    Tagged (spelled tag w h x suffix) tag (intChars w.toInt ++ x :: intChars h.toInt ++ ':' :: suffix) := by
  have htag : ∃ c ∈ tag, isBlank c = false := by
    rw [← Text.trimChars_ne_nil_iff, hs.tag_trimmed]
    exact hs.tag_ne
  have hnumbers : ∀ n : Int, '@' ∉ intChars n := fun n => not_mem_intChars (by decide)
  have hx : '@' ≠ x := by rcases hs.letter with rfl | rfl <;> decide
  have hsuffix : '@' ∉ suffix := fun hmem => (hs.suffix_free _ hmem).1 rfl
  exact ⟨⟨hs.tag_free, by simp [hnumbers, hx, hsuffix], 0, by simp [spelled]⟩, htag, ':', by simp, by decide⟩

/-- **A slot that is spelled from a tag and two numbers is read back**, with any suffix that has no separator. -/
theorem parse_spelled {x : Char} {suffix : List Char} (w h : Int32) (hs : Spelling tag x suffix) :
    parse (some (String.ofList (spelled tag w h x suffix))) true = .ok (some ⟨String.ofList tag,
      some ⟨if w = 0 then none else some w, if h = 0 then none else some h⟩⟩) := by
  have hrest : ∀ c ∈ suffix.rdropWhile isBlank, c ≠ '@' ∧ c ≠ 'x' ∧ c ≠ 'X' := fun c hc =>
    hs.suffix_free c ((List.rdropWhile_prefix isBlank suffix).subset hc)
  have htag := tagged_spelled w h { hs with suffix_free := hrest }
  rw [← trimChars_spelled w h hs, ← String.toList_ofList (l := spelled tag w h x suffix)] at htag
  have hsides := sides_spelled w.toInt h.toInt hs.letter fun c hc => (hrest c hc).2
  have hread := (Reads.sized htag hsides (literals_spelled w h _)).parse_eq
  rwa [hs.tag_trimmed] at hread

/-! ## The grammar -/

/-- **An ad slot is read by its grammar.** What is read is what `Reads` says, for every text and with or without a
banner; a banner adds a size or a complaint about one, and never another tag; a slot of a tag, two numbers and a suffix
without separators is read back as these; and a complaint quotes the slot. -/
theorem parse_grammar :
    (∀ slot banner r, parse slot banner = r ↔ Reads (slot.getD "") banner r) ∧
    (∀ slot a, parse slot true = .ok a → parse slot false = .ok (a.map fun a => { a with size := none })) ∧
    (∀ (tag : List Char) (w h : Int32) (x : Char) (suffix : List Char), Spelling tag x suffix →
      parse (some (String.ofList (spelled tag w h x suffix))) true = .ok (some ⟨String.ofList tag,
        some ⟨if w = 0 then none else some w, if h = 0 then none else some h⟩⟩)) ∧
    ∀ t, (Problem.adSlot t).message = "Invalid adSlot '" ++ t ++ "'" ∧
      (Problem.adSlotSize t).message = "Invalid size provided in adSlot '" ++ t ++ "'" ∧
      (Problem.adSlotWidth t).message = "Invalid width provided in adSlot '" ++ t ++ "'" ∧
      (Problem.adSlotHeight t).message = "Invalid height provided in adSlot '" ++ t ++ "'" :=
  ⟨fun _ _ _ => parse_eq_iff, fun _ _ => parse_false, fun _ w h _ _ => parse_spelled w h,
    fun _ => ⟨rfl, rfl, rfl, rfl⟩⟩

end BidAdapter.AdSlot
