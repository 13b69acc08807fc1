import BidAdapter.Proofs.Json.Likeness
import BidAdapter.Proofs.Json.Literals
import BidAdapter.Proofs.Json.RecordReading

/-!
# Texts read back

* `Dialect.Fluent` : a dialect in which a keyword may end in front of a boundary;
* `Dialect.LegibleAs` : a number that is scanned as a related one; `Scans` : a value that is scanned as one like it,
  whatever boundary stands behind it;
* `scanItems_chars`, `scanMembers_chars` : the items and the members of a container, when each of them is scanned so;
* `scans_of_plain` : a value whose numbers are legible is scanned as one like it;
* `scan_like` : its text is the tree of such a value, and nothing stands behind it; `scan_compact` : the tree of the
  value, where each number is scanned as itself; `read_compact` : then what is read of it is read of the text
  itself, when each number is scanned as itself.
-/

namespace BidAdapter.Json

set_option autoImplicit false

variable {d : Dialect} {R : Number → Number → Prop} {o : Origin} {kind : Number → Prop} {v : Value} {rest : List Char}

/-- A keyword may end in front of a boundary. -/
def Dialect.Fluent (d : Dialect) : Prop := ∀ rest, Boundary rest → d.afterKeyword rest = some rest

theorem fluent_document : Dialect.document.Fluent := fun _ _ => rfl

/-! ## Legible numbers -/

/-- A number that is scanned as a related one in front of a boundary, and starts like a number. -/
structure Dialect.LegibleAs (d : Dialect) (R : Number → Number → Prop) (n : Number) : Prop where
  head : ∃ c cs, n.chars = c :: cs ∧ (c = '-' ∨ c.isDigit = true)
  scan : ∀ rest, Boundary rest → ∃ m, R n m ∧ d.number (n.chars ++ rest) = (.number m, rest)

theorem Dialect.Legible.legibleAs {n : Number} (h : d.Legible n) : d.LegibleAs Eq n :=
  ⟨h.head, fun rest hrest => ⟨n, rfl, h.scan rest hrest⟩⟩

/-- A value is scanned as one like it, whatever boundary stands behind it. Two steps for each of its characters
suffice. -/
def Scans (d : Dialect) (R : Number → Number → Prop) (v : Value) : Prop :=
  ∀ steps rest, Boundary rest → 2 * v.chars.length ≤ steps →
    ∃ w, Value.Like R v w ∧ d.scanValue steps (v.chars ++ rest) = (.ofValue w, rest)

/-! ## First characters -/

/-- How the text of a value may start. -/
def StartsValue (s : List Char) : Prop := ∃ c cs, s = c :: cs ∧ isBlank c = false ∧ c ≠ ']'

theorem StartsValue.append {s : List Char} (h : StartsValue s) : StartsValue (s ++ rest) := by
  obtain ⟨c, cs, rfl, hblank, hbracket⟩ := h
  exact ⟨c, cs ++ rest, rfl, hblank, hbracket⟩

theorem StartsValue.skipBlanks {s : List Char} (h : StartsValue s) : skipBlanks s = s := by
  obtain ⟨c, cs, rfl, hblank, -⟩ := h
  exact List.dropWhile_cons_of_neg (by simp [hblank])

theorem ne_of_numeral_head {c : Char} (h : c = '-' ∨ c.isDigit = true) :
    isBlank c = false ∧ c ≠ ']' ∧ c ≠ 'n' ∧ c ≠ 't' ∧ c ≠ 'f' ∧ c ≠ '"' ∧ c ≠ '[' ∧ c ≠ '\x7b' := by
  have hne : ∀ x : Char, x ≠ '-' → x.isDigit = false → c ≠ x := by
    rintro x hminus hdigit rfl
    rcases h with h | h
    · exact hminus h
    · rw [hdigit] at h
      cases h
  refine ⟨?_, hne _ (by decide) (by decide), hne _ (by decide) (by decide), hne _ (by decide) (by decide),
    hne _ (by decide) (by decide), hne _ (by decide) (by decide), hne _ (by decide) (by decide),
    hne _ (by decide) (by decide)⟩
  simp [isBlank, hne ' ' (by decide) (by decide), hne '\n' (by decide) (by decide), hne '\t' (by decide) (by decide),
    hne '\r' (by decide) (by decide)]

theorem startsValue_chars (h : v.Plain kind o) (hd : ∀ n, kind n → d.LegibleAs R n) : StartsValue v.chars := by
  cases h with
  | null => exact ⟨'n', _, rfl, rfl, by decide⟩
  | bool b => cases b with
    | true => exact ⟨'t', _, rfl, rfl, by decide⟩
    | false => exact ⟨'f', _, rfl, rfl, by decide⟩
  | @number _ n hn =>
    obtain ⟨c, cs, heq, hc⟩ := (hd n hn).head
    obtain ⟨hblank, hbracket, -⟩ := ne_of_numeral_head hc
    exact ⟨c, cs, heq, hblank, hbracket⟩
  | string s => exact ⟨'"', _, rfl, rfl, by decide⟩
  | array => exact ⟨'[', _, rfl, rfl, by decide⟩
  | object => exact ⟨'\x7b', _, rfl, rfl, by decide⟩

/-! ## Leaves -/

theorem scanKeyword_chars (hfluent : d.Fluent) (leaf : Document) (ks : List Char) (h : Boundary rest) :
    d.scanKeyword leaf ks (ks ++ rest) = (leaf, rest) := by
  induction ks with
  | nil =>
    rw [List.nil_append, Dialect.scanKeyword, hfluent rest h]
  | cons k ks ih =>
    rw [List.cons_append, Dialect.scanKeyword, if_pos rfl, ih]

theorem quote_append (s : String) (rest : List Char) :
    quote s ++ rest = '"' :: (s.toList.flatMap escape ++ '"' :: rest) := by
  simp [quote]

/-! ## Containers -/

/-- Items are scanned one after the other, each up to the comma or the bracket behind it. -/
theorem scanItems_chars {vs : List Value} (hne : vs ≠ []) (hvs : ∀ v ∈ vs, Scans d R v) {steps : Nat}
    (hsteps : 2 * (Value.itemChars vs).length + 1 ≤ steps) (rest : List Char) :
    ∃ ws, List.Forall₂ (Value.Like R) vs ws ∧
      d.scanItems steps (Value.itemChars vs ++ ']' :: rest) = (Document.ofItems ws, none, rest) := by
  induction vs generalizing steps with
  | nil => exact absurd rfl hne
  | cons v vs ih =>
    obtain ⟨steps, rfl⟩ : ∃ k, steps = k + 1 := ⟨steps - 1, by omega⟩
    have hv := hvs v List.mem_cons_self
    cases vs with
    | nil =>
      rw [Value.itemChars] at hsteps ⊢
      have hlength : 2 * v.chars.length ≤ steps := by omega
      obtain ⟨w, hw, hscan⟩ := hv steps _ (.bracket rest) hlength
      refine ⟨[w], .cons hw .nil, ?_⟩
      rw [Dialect.scanItems, hscan]
      simp only [Document.stop_ofValue]
      rfl
    | cons v' vs =>
      rw [Value.itemChars, List.length_append, List.length_cons] at hsteps
      have hlength : 2 * v.chars.length ≤ steps := by omega
      obtain ⟨w, hw, hscan⟩ := hv steps _ (.comma _) hlength
      have hitems : 2 * (Value.itemChars (v' :: vs)).length + 1 ≤ steps := by omega
      obtain ⟨ws, hws, hrest⟩ := ih (List.cons_ne_nil v' vs) (fun v hv => hvs v (List.mem_cons_of_mem _ hv)) hitems
      refine ⟨w :: ws, .cons hw hws, ?_⟩
      rw [Value.itemChars, List.append_assoc, List.cons_append, Dialect.scanItems, hscan]
      simp only [Document.stop_ofValue]
      rw [show skipBlanks (',' :: (Value.itemChars (v' :: vs) ++ ']' :: rest)) =
        ',' :: (Value.itemChars (v' :: vs) ++ ']' :: rest) from rfl]
      simp only [hrest]
      rfl

/-- One member: its name, its value, and what stands behind it. -/
theorem scanMembers_member {steps : Nat} {k : String} {s : List Char} {doc : Document}
    (hvalue : d.scanValue steps s = (doc, rest)) (hstop : doc.stop = none) :
    d.scanMembers (steps + 1) (quote k ++ ':' :: s) =
      match skipBlanks rest with
      | '\x7d' :: rest => ([(.ok k, doc)], none, rest)
      | ',' :: rest =>
        let (ms, stop, rest) := d.scanMembers steps rest
        ((.ok k, doc) :: ms, stop, rest)
      | [] => ([(.ok k, doc)], some .truncated, [])
      | rest => ([(.ok k, doc)], some .malformed, rest) := by
  rw [quote_append, Dialect.scanMembers, show ∀ s, skipBlanks ('"' :: s) = '"' :: s from fun _ => rfl]
  simp only [scanBody_escapes, d.textOf_pieces]
  rw [show ∀ s, skipBlanks (':' :: s) = ':' :: s from fun _ => rfl]
  simp only [hvalue, hstop]
  rfl

/-- Members are scanned one after the other, each up to the comma or the brace behind it. -/
theorem scanMembers_chars {ms : Members} (hne : ms ≠ []) (hms : ∀ m ∈ ms, Scans d R m.2) {steps : Nat}
    (hsteps : 2 * (Value.memberChars ms).length + 1 ≤ steps) (rest : List Char) :
    ∃ ns, LikeMembers R ms ns ∧
      d.scanMembers steps (Value.memberChars ms ++ '\x7d' :: rest) = (Document.ofMembers ns, none, rest) := by
  induction ms generalizing steps with
  | nil => exact absurd rfl hne
  | cons m ms ih =>
    obtain ⟨k, v⟩ := m
    obtain ⟨steps, rfl⟩ : ∃ k, steps = k + 1 := ⟨steps - 1, by omega⟩
    have hv := hms (k, v) List.mem_cons_self
    cases ms with
    | nil =>
      rw [Value.memberChars, List.length_append, List.length_cons] at hsteps
      have hlength : 2 * v.chars.length ≤ steps := by omega
      obtain ⟨w, hw, hscan⟩ := hv steps _ (.brace rest) hlength
      refine ⟨[(k, w)], .cons ⟨rfl, hw⟩ .nil, ?_⟩
      rw [Value.memberChars, List.append_assoc, List.cons_append, scanMembers_member hscan (Document.stop_ofValue w)]
      rfl
    | cons m ms =>
      rw [Value.memberChars] at hsteps
      simp only [List.length_append, List.length_cons] at hsteps
      have hlength : 2 * v.chars.length ≤ steps := by omega
      obtain ⟨w, hw, hscan⟩ := hv steps _ (.comma _) hlength
      have hmembers : 2 * (Value.memberChars (m :: ms)).length + 1 ≤ steps := by omega
      obtain ⟨ns, hns, hrest⟩ := ih (List.cons_ne_nil m ms) (fun m hm => hms m (List.mem_cons_of_mem _ hm)) hmembers
      refine ⟨(k, w) :: ns, .cons ⟨rfl, hw⟩ hns, ?_⟩
      rw [Value.memberChars]
      simp only [List.append_assoc, List.cons_append]
      rw [scanMembers_member hscan (Document.stop_ofValue w),
        show ∀ s, skipBlanks (',' :: s) = ',' :: s from fun _ => rfl]
      simp only [hrest]
      rfl

/-! ## Values -/

/-- A value has a first character, so there is a step for it. -/
theorem scans_of_succ (hstart : StartsValue v.chars)
    (h : ∀ steps rest, Boundary rest → 2 * v.chars.length ≤ steps + 1 →
      ∃ w, Value.Like R v w ∧ d.scanValue (steps + 1) (v.chars ++ rest) = (.ofValue w, rest)) : Scans d R v := by
  intro steps rest hrest hsteps
  obtain ⟨c, cs, heq, -⟩ := hstart
  rw [heq, List.length_cons] at hsteps
  obtain ⟨steps, rfl⟩ : ∃ k, steps = k + 1 := ⟨steps - 1, by omega⟩
  apply h steps rest hrest
  rw [heq, List.length_cons]
  exact hsteps

theorem scanValue_number {n : Number} (hn : d.LegibleAs R n) (steps : Nat) (h : Boundary rest) :
    ∃ m, R n m ∧ d.scanValue (steps + 1) (n.chars ++ rest) = (.number m, rest) := by
  obtain ⟨c, cs, heq, hc⟩ := hn.head
  obtain ⟨hblank, -, hn', ht, hf, hquote, hbracket, hbrace⟩ := ne_of_numeral_head hc
  obtain ⟨m, hm, hscan⟩ := hn.scan rest h
  refine ⟨m, hm, ?_⟩
  rw [heq, List.cons_append] at hscan ⊢
  have hblanks : skipBlanks (c :: (cs ++ rest)) = c :: (cs ++ rest) :=
    List.dropWhile_cons_of_neg (by simp [hblank])
  rw [Dialect.scanValue, hblanks]
  simp only [if_neg hn', if_neg ht, if_neg hf, if_neg hquote, if_neg hbracket, if_neg hbrace, if_pos hc, hscan]

theorem startsValue_itemChars {vs : List Value} {v : Value} (hv : StartsValue v.chars) :
    StartsValue (Value.itemChars (v :: vs)) := by
  cases vs with
  | nil => exact hv
  | cons w vs => exact hv.append

theorem exists_memberChars (m : String × Value) (ms : Members) :
    ∃ cs, Value.memberChars (m :: ms) = '"' :: cs := by
  cases ms with
  | nil => exact ⟨_, rfl⟩
  | cons n ms => exact ⟨_, rfl⟩

theorem scanValue_array {vs : List Value} (hne : vs ≠ []) (hstart : StartsValue (Value.itemChars vs))
    (hvs : ∀ v ∈ vs, Scans d R v) {steps : Nat} (hsteps : 2 * (Value.itemChars vs).length + 1 ≤ steps)
    (rest : List Char) :
    ∃ ws, List.Forall₂ (Value.Like R) vs ws ∧
      d.scanValue (steps + 1) ('[' :: (Value.itemChars vs ++ ']' :: rest)) =
        (.array (Document.ofItems ws) none, rest) := by
  obtain ⟨ws, hws, hitems⟩ := scanItems_chars hne hvs hsteps rest
  refine ⟨ws, hws, ?_⟩
  have hfirst : StartsValue (Value.itemChars vs ++ ']' :: rest) := hstart.append
  have hblanks := hfirst.skipBlanks
  obtain ⟨c, cs, heq, -, hbracket⟩ := hfirst
  rw [heq] at hitems hblanks ⊢
  rw [Dialect.scanValue, show skipBlanks ('[' :: c :: cs) = '[' :: c :: cs from rfl]
  simp only [Char.reduceEq, if_false, if_true, hblanks, List.cons.injEq, hbracket, false_and, imp_self, implies_true,
    hitems]

theorem scanValue_object {m : String × Value} {ms : Members} (hms : ∀ n ∈ m :: ms, Scans d R n.2) {steps : Nat}
    (hsteps : 2 * (Value.memberChars (m :: ms)).length + 1 ≤ steps) (rest : List Char) :
    ∃ ns, LikeMembers R (m :: ms) ns ∧
      d.scanValue (steps + 1) ('\x7b' :: (Value.memberChars (m :: ms) ++ '\x7d' :: rest)) =
        (.object (Document.ofMembers ns) none, rest) := by
  obtain ⟨ns, hns, hmembers⟩ := scanMembers_chars (List.cons_ne_nil m ms) hms hsteps rest
  refine ⟨ns, hns, ?_⟩
  obtain ⟨cs, heq⟩ := exists_memberChars m ms
  rw [heq, List.cons_append] at hmembers ⊢
  have hblanks : skipBlanks ('"' :: (cs ++ '\x7d' :: rest)) = '"' :: (cs ++ '\x7d' :: rest) := rfl
  rw [Dialect.scanValue, show ∀ s, skipBlanks ('\x7b' :: s) = '\x7b' :: s from fun _ => rfl]
  simp only [Char.reduceEq, if_false, if_true, hblanks]
  show (Document.object (d.scanMembers steps _).1 (d.scanMembers steps _).2.1, (d.scanMembers steps _).2.2) = _
  rw [hmembers]

/-- **A value whose numbers are legible is scanned as one like it.** -/
theorem scans_of_plain (hfluent : d.Fluent) (hd : ∀ n, kind n → d.LegibleAs R n) (h : v.Plain kind o) :
    Scans d R v := by
  have hstart := startsValue_chars h hd
  induction h with
  | null => exact scans_of_succ hstart fun steps rest hrest _ => ⟨.null, .null, scanKeyword_chars hfluent _ _ hrest⟩
  | bool b =>
    apply scans_of_succ hstart
    intro steps rest hrest _
    refine ⟨.bool b, .bool b, ?_⟩
    cases b with
    | true => exact scanKeyword_chars hfluent _ _ hrest
    | false => exact scanKeyword_chars hfluent _ _ hrest
  | number hn =>
    apply scans_of_succ hstart
    intro steps rest hrest _
    obtain ⟨m, hm, hscan⟩ := scanValue_number (hd _ hn) steps hrest
    exact ⟨.number m, .number hm, hscan⟩
  | string s =>
    apply scans_of_succ hstart
    intro steps rest hrest _
    refine ⟨.string s, .string s, ?_⟩
    rw [Value.chars, quote_append, Dialect.scanValue, show ∀ s, skipBlanks ('"' :: s) = '"' :: s from fun _ => rfl]
    simp only [scanBody_escapes, Dialect.stringLeaf, d.textOf_pieces]
    rfl
  | @array o inner vs hinner hvs ih =>
    apply scans_of_succ hstart
    intro steps rest hrest hsteps
    cases vs with
    | nil => exact ⟨.array [], .array .nil, rfl⟩
    | cons v vs =>
      rw [Value.chars, List.length_append, List.length_cons, List.length_singleton] at hsteps
      simp only [Value.chars, List.cons_append, List.append_assoc]
      have hscans : ∀ w ∈ v :: vs, Scans d R w := fun w hw => ih w hw (startsValue_chars (hvs w hw) hd)
      have hfirst : StartsValue (Value.itemChars (v :: vs)) :=
        startsValue_itemChars (startsValue_chars (hvs v List.mem_cons_self) hd)
      have hitems : 2 * (Value.itemChars (v :: vs)).length + 1 ≤ steps := by omega
      obtain ⟨ws, hws, hscan⟩ := scanValue_array (List.cons_ne_nil v vs) hfirst hscans hitems rest
      exact ⟨.array ws, .array hws, hscan⟩
  | @object o inner ms hinner hnames hms ih =>
    apply scans_of_succ hstart
    intro steps rest hrest hsteps
    cases ms with
    | nil => exact ⟨.object [], .object rfl .nil, rfl⟩
    | cons m ms =>
      rw [Value.chars, List.length_append, List.length_cons, List.length_singleton] at hsteps
      simp only [Value.chars, List.cons_append, List.append_assoc]
      have hscans : ∀ n ∈ m :: ms, Scans d R n.2 := fun n hn => ih n hn (startsValue_chars (hms n hn) hd)
      have hmembers : 2 * (Value.memberChars (m :: ms)).length + 1 ≤ steps := by omega
      obtain ⟨ns, hns, hscan⟩ := scanValue_object hscans hmembers rest
      exact ⟨.object ns, like_object_iff.mpr ⟨ns, hns, rfl⟩, hscan⟩

/-- **The text of a plain value is the tree of one like it**, and nothing stands behind it. -/
theorem scan_like (hfluent : d.Fluent) (hd : ∀ n, kind n → d.LegibleAs R n) (h : v.Plain kind o) :
    ∃ w, Value.Like R v w ∧ Document.scan d v.compact = (.ofValue w, false) := by
  obtain ⟨w, hw, hscan⟩ := scans_of_plain hfluent hd h (2 * v.chars.length + 2) [] .nil (by omega)
  rw [List.append_nil] at hscan
  refine ⟨w, hw, ?_⟩
  simp only [Document.scan, Value.compact, String.toList_ofList, hscan]
  rfl

/-- **The text of a plain value is its tree**, where each number is scanned as itself. -/
theorem scan_compact (hfluent : d.Fluent) (hd : ∀ n, kind n → d.Legible n) (h : v.Plain kind o) :
    Document.scan d v.compact = (.ofValue v, false) := by
  obtain ⟨w, hw, hscan⟩ := scan_like hfluent (fun n hn => (hd n hn).legibleAs) h
  rw [hscan, fixed_of_plain h (fun _ _ _ heq => heq) w hw]

/-- What is read of a plain value is read of its text. -/
theorem read_compact {α : Type} {reader : Decoder α} {a : α} (hkind : ∀ n, kind n → Dialect.document.Legible n)
    (h : v.Plain kind o) (hread : reader .ofText (.ofValue v) = .ok a) : reader.read v.compact = .ok a := by
  rw [read_eq_ok_iff, scan_compact fluent_document hkind h]
  exact ⟨hread, rfl⟩

end BidAdapter.Json
