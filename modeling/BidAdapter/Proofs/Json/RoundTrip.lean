import BidAdapter.Proofs.Json.RecordReading

/-!
# Written and read back

* `RoundTrips` : what is written is a plain value, and is read back as what it was;
* `roundTrips_string`, …, `roundTrips_list`, `roundTrips_table` : scalars, lists and tables;
* `Writes` : the fields of a record read its typed members one after the other, `Writes.part` : one that may be missing;
  `Keepable` : what a record may keep; `Members.numbers` : the numbers in it;
* `openRecord_roundTrips`, `closedRecord_roundTrips` : a record whose parts do so.
-/

namespace BidAdapter.Json

set_option autoImplicit false

variable {α β : Type} {kind : Number → Prop} {o inner : Origin}

/-- What is written is a plain value, and is read back as what it was. -/
structure RoundTrips (kind : Number → Prop) (d : Decoder α) (enc : α → Value) (o : Origin) (a : α) : Prop where
  plain : (enc a).Plain kind o
  reads : d o (.ofValue (enc a)) = .ok a

theorem RoundTrips.imp {kind' : Number → Prop} {d : Decoder α} {enc : α → Value} {a : α}
    (h : RoundTrips kind d enc o a) (himp : ∀ n, kind n → kind' n) : RoundTrips kind' d enc o a :=
  ⟨h.plain.imp himp, h.reads⟩

/-! ## Scalars -/

theorem roundTrips_string (s : String) : RoundTrips kind Decoder.string .string o s := ⟨.string s, rfl⟩

theorem roundTrips_bool (b : Bool) : RoundTrips kind Decoder.bool .bool o b := ⟨.bool b, rfl⟩

theorem roundTrips_int32 (hint : ∀ n fits, kind (.int n fits)) (n : Int32) :
    RoundTrips kind Decoder.int32 .ofInt32 o n := ⟨.number (hint _ _), int32_eq_ok_iff.mpr rfl⟩

theorem ofFloat_of_isFinite {x : Float} (finite : x.isFinite = true) : Value.ofFloat x = .number (.real x finite) := by
  simp only [Value.ofFloat, Number.ofFloat?, dif_pos finite]

theorem roundTrips_double {x : Float} (finite : x.isFinite = true) (hx : kind (.real x finite)) :
    RoundTrips kind Decoder.double .ofFloat o x := by
  constructor
  · rw [ofFloat_of_isFinite finite]
    exact .number hx
  · rw [ofFloat_of_isFinite finite]
    rfl

theorem roundTrips_members {ms : Members} (h : (Value.object ms).Plain kind o) :
    RoundTrips kind Decoder.members .object o ms :=
  ⟨h, members_eq_ok_iff.mpr (any_ofValue h)⟩

/-! ## Lists and tables -/

theorem roundTrips_list {d : Decoder α} {enc : α → Value} {xs : List α} (hinner : o.enter = .ok inner)
    (h : ∀ x ∈ xs, RoundTrips kind d enc inner x) :
    RoundTrips kind (Decoder.list d) (fun xs => .array (xs.map enc)) o xs := by
  constructor
  · refine .array hinner ?_
    intro v hv
    obtain ⟨x, hx, rfl⟩ := List.mem_map.mp hv
    exact (h x hx).plain
  · refine list_eq_ok_iff.mpr ⟨inner, _, hinner, rfl, ?_⟩
    rw [Document.ofItems_eq_map, List.map_map, List.forall₂_map_left_iff, List.forall₂_same]
    intro x hx
    exact (h x hx).reads

theorem roundTrips_strings {ss : List String} (hinner : o.enter = .ok inner) :
    RoundTrips kind (Decoder.list Decoder.string) .ofStrings o ss :=
  roundTrips_list hinner fun s _ => roundTrips_string s

/-- Entries that are in order are put one behind the other. -/
theorem tableEntries_ofMembers {d : Decoder α} {enc : α → Value} {done t : Table α} (hordered : (done ++ t).Ordered)
    (h : ∀ e ∈ t, RoundTrips kind d enc o e.2) :
    Decoder.tableEntries d o done (Document.ofMembers (t.map fun e => (e.1, enc e.2))) = .ok (done ++ t) := by
  induction t generalizing done with
  | nil =>
    rw [List.append_nil]
    rfl
  | cons e t ih =>
    rw [List.map_cons, Document.ofMembers, Decoder.tableEntries, bind_eq_ok_iff]
    refine ⟨e.1, rfl, bind_eq_ok_iff.mpr ⟨e.2, (h e List.mem_cons_self).reads, ?_⟩⟩
    have hlast : ∀ k ∈ done, k.1 < e.1 := by
      intro k hk
      unfold Table.Ordered at hordered
      rw [List.map_append, List.map_cons, List.pairwise_append] at hordered
      exact hordered.2.2 k.1 (List.mem_map_of_mem hk) e.1 List.mem_cons_self
    have hrest : ∀ k ∈ t, RoundTrips kind d enc o k.2 := fun k hk => h k (List.mem_cons_of_mem _ hk)
    rw [Table.insert_of_lt hlast, ih (by rwa [List.append_assoc]) hrest, List.append_assoc]
    rfl

theorem roundTrips_table {d : Decoder α} {enc : α → Value} {t : Table α} (hinner : o.enter = .ok inner)
    (hordered : t.Ordered) (h : ∀ e ∈ t, RoundTrips kind d enc inner e.2) :
    RoundTrips kind (Decoder.table d) (fun t => .object (t.map fun e => (e.1, enc e.2))) o t := by
  constructor
  · have hnames : (Members.names (t.map fun e => (e.1, enc e.2))).Nodup := by
      rw [Members.names, List.map_map]
      exact hordered.imp fun hlt => hlt.ne
    refine .object hinner hnames ?_
    intro m hm
    obtain ⟨e, he, rfl⟩ := List.mem_map.mp hm
    exact (h e he).plain
  · have hdone : Table.Ordered ([] ++ t) := hordered
    exact table_eq_ok_iff.mpr ⟨inner, _, hinner, rfl, tableEntries_ofMembers hdone h⟩

/-- A value that may be null, where what is written of it is not. -/
theorem RoundTrips.optional {d : Decoder α} {enc : α → Value} {a : α} (h : RoundTrips kind d enc o a)
    (hnull : ∀ b, d o .null ≠ .ok b) : RoundTrips kind (Decoder.optional d) (Option.elim · .null enc) o (some a) := by
  refine ⟨h.plain, optional_eq_ok_iff.mpr (Or.inr ⟨?_, a, h.reads, rfl⟩)⟩
  intro heq
  apply hnull a
  rw [← heq]
  exact h.reads

/-! ## Fields -/

/-- The fields of a record read its typed members one after the other, and make one record of another. -/
inductive Writes (kind : Number → Prop) (o : Origin) :
    List (Field α) → α → List (String × Option Value) → α → Prop where
  | nil (a : α) : Writes kind o [] a [] a
  | skip {f : Field α} {fs : List (Field α)} {a a' : α} {ts : List (String × Option Value)}
    (h : Writes kind o fs a ts a') : Writes kind o (f :: fs) a ((f.name, none) :: ts) a'
  | read {f : Field α} {fs : List (Field α)} {a a' : α} {v : Value} {change : α → α}
    {ts : List (String × Option Value)} (hv : v.Plain kind o) (hread : f.read o (.ofValue v) = .ok change)
    (h : Writes kind o fs (change a) ts a') : Writes kind o (f :: fs) a ((f.name, some v) :: ts) a'

namespace Writes

variable {fields fs : List (Field α)} {a a' : α} {ts : List (String × Option Value)}

/-- A part that may be missing, and is null where it is not written. -/
theorem part {f : Field α} {d : Decoder (Option β)} {enc : β → Value} {set : α → Option β → α} {x : Option β}
    (hf : f.read = (Field.of f.name d set).read) (hset : set a none = a)
    (hx : ∀ b, x = some b → RoundTrips kind d (Option.elim · .null enc) o (some b))
    (h : Writes kind o fs (set a x) ts a') : Writes kind o (f :: fs) a ((f.name, x.map enc) :: ts) a' := by
  cases x with
  | none =>
    rw [hset] at h
    exact .skip h
  | some b =>
    obtain ⟨hplain, hreads⟩ := hx b rfl
    have hread : f.read o (.ofValue (enc b)) = .ok fun a => set a (some b) := by
      rw [hf]
      exact map_eq_ok_iff.mpr ⟨some b, hreads, rfl⟩
    exact .read hplain hread h

/-- A field that may be missing. -/
theorem option {f : Field α} {d : Decoder β} {enc : β → Value} {set : α → Option β → α} {x : Option β}
    (hf : f.read = (Field.of f.name (Decoder.optional d) set).read) (hnull : ∀ b, d o .null ≠ .ok b)
    (hset : set a none = a) (hx : ∀ b, x = some b → RoundTrips kind d enc o b)
    (h : Writes kind o fs (set a x) ts a') : Writes kind o (f :: fs) a ((f.name, x.map enc) :: ts) a' :=
  .part hf hset (fun b hb => (hx b hb).optional hnull) h

/-- A number that may be missing. -/
theorem int32 (hint : ∀ n fits, kind (.int n fits)) {name : String} {set : α → Option Int32 → α} {x : Option Int32}
    (hset : set a none = a) (h : Writes kind o fs (set a x) ts a') :
    Writes kind o (Field.of name (Decoder.optional Decoder.int32) set :: fs) a ((name, x.map .ofInt32) :: ts) a' := by
  have hround : ∀ n, x = some n → RoundTrips kind Decoder.int32 .ofInt32 o n := fun n _ => roundTrips_int32 hint n
  exact .option rfl (fun _ => not_mistyped) hset hround h

/-- A text that may be missing. -/
theorem string {name : String} {set : α → Option String → α} {x : Option String} (hset : set a none = a)
    (h : Writes kind o fs (set a x) ts a') :
    Writes kind o (Field.of name (Decoder.optional Decoder.string) set :: fs) a ((name, x.map .string) :: ts) a' := by
  have hround : ∀ s, x = some s → RoundTrips kind Decoder.string .string o s := fun s _ => roundTrips_string s
  exact .option rfl (fun _ => not_mistyped) hset hround h

/-- A truth value that may be missing. -/
theorem bool {name : String} {set : α → Option Bool → α} {x : Option Bool} (hset : set a none = a)
    (h : Writes kind o fs (set a x) ts a') :
    Writes kind o (Field.of name (Decoder.optional Decoder.bool) set :: fs) a ((name, x.map .bool) :: ts) a' := by
  have hround : ∀ b, x = some b → RoundTrips kind Decoder.bool .bool o b := fun b _ => roundTrips_bool b
  exact .option rfl (fun _ => not_mistyped) hset hround h

/-- An object that may be missing. -/
theorem members {name : String} {set : α → Option Members → α} {x : Option Members} (hset : set a none = a)
    (hx : ∀ ms, x = some ms → (Value.object ms).Plain kind o) (h : Writes kind o fs (set a x) ts a') :
    Writes kind o (Field.of name (Decoder.optional Decoder.members) set :: fs) a ((name, x.map .object) :: ts) a' := by
  have hround : ∀ ms, x = some ms → RoundTrips kind Decoder.members .object o ms := by
    intro ms hms
    exact roundTrips_members (hx ms hms)
  exact .option rfl (fun _ => not_mistyped) hset hround h

/-- A field that is always written. -/
theorem always {name : String} {d : Decoder β} {enc : β → Value} {set : α → β → α} {b : β}
    (hb : RoundTrips kind d enc o b) (h : Writes kind o fs (set a b) ts a') :
    Writes kind o (Field.of name d set :: fs) a ((name, some (enc b)) :: ts) a' := by
  have hread : (Field.of name d set).read o (.ofValue (enc b)) = .ok fun a => set a b :=
    map_eq_ok_iff.mpr ⟨b, hb.reads, rfl⟩
  exact .read hb.plain hread h

theorem names (h : Writes kind o fs a ts a') : ts.map Prod.fst = fs.map Field.name := by
  induction h with
  | nil => rfl
  | skip _ ih => rw [List.map_cons, List.map_cons, ih]
  | read _ _ _ ih => rw [List.map_cons, List.map_cons, ih]

theorem plain (h : Writes kind o fs a ts a') : ∀ m ∈ Members.typed ts, m.2.Plain kind o := by
  induction h with
  | nil =>
    intro m hm
    cases hm
  | skip _ ih => exact ih
  | read hv _ _ ih =>
    intro m hm
    rcases List.mem_cons.mp hm with rfl | hm
    · exact hv
    · exact ih m hm

/-- The typed members of a record are read in front of any others. -/
theorem run {unknown : Unknown α} (h : Writes kind o fs a ts a') (hfs : ∀ f ∈ fs, Field.find? fields f.name = some f)
    (hnames : (fs.map Field.name).Nodup) {seen : List String} (hseen : ∀ f ∈ fs, f.name ∉ seen)
    (rest : List (Name × Document)) : ∃ seen', ∀ r, Decoder.recordMembers fields unknown o seen' a' rest = .ok r →
      Decoder.recordMembers fields unknown o seen a (Document.ofMembers (Members.typed ts) ++ rest) = .ok r := by
  induction h generalizing seen with
  | nil a => exact ⟨seen, fun r hr => hr⟩
  | @skip f fs a a' ts _ ih =>
    have hrest : ∀ g ∈ fs, Field.find? fields g.name = some g := fun g hg => hfs g (List.mem_cons_of_mem _ hg)
    have hunseen : ∀ g ∈ fs, g.name ∉ seen := fun g hg => hseen g (List.mem_cons_of_mem _ hg)
    exact ih hrest (List.nodup_cons.mp hnames).2 hunseen
  | @read f fs a a' v change ts hv hread _ ih =>
    obtain ⟨hfresh, hnames⟩ := List.nodup_cons.mp hnames
    have hrest : ∀ g ∈ fs, Field.find? fields g.name = some g := fun g hg => hfs g (List.mem_cons_of_mem _ hg)
    have hunseen : ∀ g ∈ fs, g.name ∉ f.name :: seen := by
      intro g hg hmem
      rcases List.mem_cons.mp hmem with heq | hmem
      · exact hfresh (heq ▸ List.mem_map_of_mem hg)
      · exact hseen g (List.mem_cons_of_mem _ hg) hmem
    obtain ⟨seen', hrun⟩ := ih hrest hnames hunseen
    refine ⟨seen', ?_⟩
    intro r hr
    have hf := hfs f List.mem_cons_self
    have hnew := hseen f List.mem_cons_self
    exact recordMembers_cons_iff.mpr ⟨f.name, rfl, Or.inl ⟨f, change, hf, hnew, hread, hrun r hr⟩⟩

end Writes

/-! ## Records -/

/-- The numbers in the members of an object. -/
def Members.numbers (ms : Members) : List Number := (Document.ofValue (.object ms)).numbers

/-- What a record may keep beside the members that it knows. -/
structure Keepable (kind : Number → Prop) (o : Origin) (known : List String) (others : Members) : Prop where
  names : others.names.Nodup
  unknown : ∀ n ∈ others.names, n ∉ known
  plain : ∀ m ∈ others, m.2.Plain kind o

namespace Keepable

variable {known : List String} {ms : Members} {name : String} {v : Value}

theorem nil : Keepable kind o known [] :=
  ⟨List.nodup_nil, fun _ hn => absurd hn List.not_mem_nil, fun _ hm => absurd hm List.not_mem_nil⟩

theorem imp {kind' : Number → Prop} (h : Keepable kind o known ms) (himp : ∀ n, kind n → kind' n) :
    Keepable kind' o known ms :=
  ⟨h.names, h.unknown, fun m hm => (h.plain m hm).imp himp⟩

/-- What may be kept is of the kind that its numbers are of. -/
theorem value_of_numbers {kind' : Number → Prop} (h : Keepable kind o known ms) (hkind : ∀ n ∈ ms.numbers, kind' n) :
    Keepable kind' .value known ms := by
  refine ⟨h.names, h.unknown, ?_⟩
  intro m hm
  apply (h.plain m hm).value_of_numbers
  intro n hn
  have hmem : ((.ok m.1, .ofValue m.2) : Name × Document) ∈ Document.ofMembers ms :=
    Document.mem_ofMembers_iff.mpr ⟨m.2, hm, rfl⟩
  exact hkind n (Document.mem_numbers_object.mpr ⟨_, hmem, hn⟩)

theorem filter (h : Keepable kind o known ms) (p : String × Value → Bool) : Keepable kind o known (ms.filter p) := by
  refine ⟨Members.nodup_filter p h.names, ?_, ?_⟩
  · intro n hn
    obtain ⟨m, hm, rfl⟩ := List.mem_map.mp hn
    have hmem := (List.mem_filter.mp hm).1
    exact h.unknown m.1 (Members.mem_names_of_mem hmem)
  · intro m hm
    exact h.plain m (List.mem_filter.mp hm).1

theorem insert (h : Keepable kind o known ms) (hname : name ∉ known) (hv : v.Plain kind o) :
    Keepable kind o known (ms.insert name v) := by
  refine ⟨Members.nodup_insert h.names, ?_, ?_⟩
  · intro n hn
    rcases Members.mem_names_insert.mp hn with hn | rfl
    · exact h.unknown n hn
    · exact hname
  · intro m hm
    rcases Members.mem_of_mem_insert hm with hm | rfl
    · exact h.plain m hm
    · exact hv

end Keepable

section Parts
variable {ms : List (Name × Document)}

/-- Every number among the members of an object is of the kind. -/
def OfKind (kind : Number → Prop) (ms : List (Name × Document)) : Prop := ∀ m ∈ ms, ∀ n ∈ m.2.numbers, kind n

theorem OfKind.of_numbers {stop : Option Flaw} (h : ∀ n ∈ (Document.object ms stop).numbers, kind n) :
    OfKind kind ms := by
  intro m hm n hn
  apply h
  exact Document.mem_numbers_object.mpr ⟨m, hm, hn⟩

theorem OfKind.of_given {own : List String} {doc : Document} (h : OfKind kind ms) (hgiven : given own ms = some doc) :
    ∀ n ∈ doc.numbers, kind n := by
  have hmem : doc ∈ membersNamed own ms := by
    unfold given at hgiven
    split at hgiven
    · cases hgiven
    · cases hgiven
    · next heq =>
      cases hgiven
      rw [heq]
      exact List.mem_cons_self
  obtain ⟨m, hm, rfl⟩ := List.mem_map.mp hmem
  exact h m (List.mem_filter.mp hm).1

/-- What a record keeps of what it was read from. -/
theorem OthersRead.keepable {known : List String} {others : Members} (h : OthersRead o ms known others)
    (hkind : OfKind kind ms) : Keepable kind o known others := by
  refine ⟨h.nodup, fun n hn => h.not_mem hn, ?_⟩
  intro p hp
  obtain ⟨ps, hps, rfl⟩ := h.exists_pairs
  obtain ⟨m, hm, hread⟩ := exists_of_mem_right hps (Members.mem_of_mem_ofPairs hp)
  exact plain_of_any hread.2 (hkind m (List.mem_filter.mp hm).1)

/-- What holds of everything that is read holds of an optional part. -/
theorem OptionRead.forall {own : List String} {d : Decoder β} {x : Option β} {P : β → Prop}
    (h : OptionRead o ms own d x) (hkind : OfKind kind ms)
    (hP : ∀ doc b, d o doc = .ok b → (∀ n ∈ doc.numbers, kind n) → P b) : ∀ b, x = some b → P b := by
  rintro b rfl
  cases h with
  | present hgiven hread => exact hP _ b hread (hkind.of_given hgiven)

/-- Lists are read item by item. -/
theorem forall_of_list {d : Decoder β} {doc : Document} {xs : List β} {P : Origin → β → Prop}
    (h : Decoder.list d o doc = .ok xs) (hkind : ∀ n ∈ doc.numbers, kind n)
    (hP : ∀ inner doc b, d inner doc = .ok b → (∀ n ∈ doc.numbers, kind n) → P inner b) :
    ∃ inner, o.enter = .ok inner ∧ ∀ x ∈ xs, P inner x := by
  obtain ⟨inner, ds, hinner, rfl, hds⟩ := list_eq_ok_iff.mp h
  refine ⟨inner, hinner, ?_⟩
  intro x hx
  obtain ⟨d, hd, hread⟩ := exists_of_mem_right hds hx
  apply hP inner d x hread
  intro n hn
  exact hkind n (Document.mem_numbers_array.mpr ⟨d, hd, hn⟩)

end Parts

section Records
variable {title : String} {fields : List (Field α)} {put : α → String → Value → α} {absent a : α}
  {ts : List (String × Option Value)} {others : Members} {enc : α → Value}

/-- The typed members of a record and those it keeps are a plain object. -/
theorem plain_record (hinner : o.enter = .ok inner) (hnames : (fields.flatMap Field.names).Nodup)
    (hw : Writes kind inner fields absent ts a)
    (hothers : Keepable kind inner (fields.flatMap Field.names) others) :
    (Value.object (Members.typed ts ++ others)).Plain kind o := by
  have hsub := Field.name_sublist_names fields
  have htyped : (ts.map Prod.fst).Nodup := by
    rw [hw.names]
    exact hnames.sublist hsub
  have hbeside : ∀ n ∈ others.names, n ∉ ts.map Prod.fst := by
    intro n hn hts
    rw [hw.names] at hts
    exact hothers.unknown n hn (hsub.subset hts)
  refine .object hinner (Members.nodup_typed htyped hothers.names hbeside) ?_
  intro m hm
  rcases List.mem_append.mp hm with hm | hm
  · exact hw.plain m hm
  · exact hothers.plain m hm

/-- The typed members of a record are read in front of what stands behind them. -/
theorem recordObject_of_writes {unknown : Unknown α} {rest : List (Name × Document)} {a' : α}
    (hinner : o.enter = .ok inner) (hnames : (fields.flatMap Field.names).Nodup)
    (hneeded : ∀ f ∈ fields, f.required = true → f.name ∈ (Members.typed ts).names)
    (hw : Writes kind inner fields absent ts a)
    (hrest : ∀ seen, Decoder.recordMembers fields unknown inner seen a rest = .ok (seen, a')) :
    Decoder.recordObject fields unknown absent o (Document.ofMembers (Members.typed ts) ++ rest) none = .ok a' := by
  have hfind : ∀ f ∈ fields, Field.find? fields f.name = some f := by
    intro f hf
    exact (Field.find?_eq_some_iff hnames).mpr ⟨hf, List.mem_cons_self⟩
  have hfirst : (fields.map Field.name).Nodup := hnames.sublist (Field.name_sublist_names fields)
  have hfresh : ∀ f ∈ fields, f.name ∉ ([] : List String) := fun _ _ => List.not_mem_nil
  obtain ⟨seen, hrun⟩ := hw.run hfind hfirst hfresh rest
  have hread := hrun _ (hrest seen)
  refine recordObject_eq_ok_iff.mpr ⟨inner, seen, hinner, rfl, hread, missing?_eq_none_iff.mpr ?_⟩
  intro f hf hrequired
  obtain ⟨⟨_, v⟩, hv, rfl⟩ := List.mem_map.mp (hneeded f hf hrequired)
  have hmem := List.mem_append_left rest (Document.mem_ofMembers_iff.mpr ⟨v, hv, rfl⟩)
  exact (mem_seen_iff hread).mpr (Or.inr ⟨f.name, _, f, hmem, hfind f hf, rfl⟩)

/-- Unknown members are kept one behind the other. -/
theorem recordMembers_keep {seen : List String} {done : Members} (record : Members → α)
    (hput : ∀ done n v, put (record done) n v = record (done.insert n v))
    (hothers : Keepable kind o (fields.flatMap Field.names) others) (hnodup : (done ++ others).names.Nodup) :
    Decoder.recordMembers fields (Decoder.keep put) o seen (record done) (Document.ofMembers others) =
      .ok (seen, record (done ++ others)) := by
  induction others generalizing done with
  | nil =>
    rw [List.append_nil]
    rfl
  | cons m others ih =>
    obtain ⟨name, v⟩ := m
    have hv : Decoder.any o (.ofValue v) = .ok v := any_ofValue (hothers.plain (name, v) List.mem_cons_self)
    refine recordMembers_cons_iff.mpr ⟨name, rfl, Or.inr ⟨fun a => put a name v, ?_, ?_, ?_⟩⟩
    · exact Field.find?_eq_none_iff.mpr (hothers.unknown name List.mem_cons_self)
    · exact bind_eq_ok_iff.mpr ⟨v, hv, rfl⟩
    · have hfresh : name ∉ done.names := by
        intro hname
        rw [Members.names_append] at hnodup
        exact (List.nodup_append.mp hnodup).2.2 name hname name List.mem_cons_self rfl
      have happend : done ++ (name, v) :: others = (done ++ [(name, v)]) ++ others := by
        rw [List.append_assoc]
        rfl
      dsimp only
      rw [happend] at hnodup ⊢
      rw [hput, Members.insert_of_not_mem hfresh]
      refine ih ⟨(List.nodup_cons.mp hothers.names).2, ?_, ?_⟩ hnodup
      · exact fun n hn => hothers.unknown n (List.mem_cons_of_mem _ hn)
      · exact fun m hm => hothers.plain m (List.mem_cons_of_mem _ hm)

/-- **A record that keeps unknown members round-trips** when its parts do: `record` is the record with any others. -/
theorem openRecord_roundTrips (record : Members → α)
    (hput : ∀ done n v, put (record done) n v = record (done.insert n v)) (hrecord : record others = a)
    (henc : enc a = .object (Members.typed ts ++ others)) (hinner : o.enter = .ok inner)
    (hnames : (fields.flatMap Field.names).Nodup)
    (hneeded : ∀ f ∈ fields, f.required = true → f.name ∈ (Members.typed ts).names)
    (hw : Writes kind inner fields absent ts (record []))
    (hothers : Keepable kind inner (fields.flatMap Field.names) others) :
    RoundTrips kind (Decoder.openRecord title fields put absent) enc o a := by
  constructor
  · rw [henc]
    exact plain_record hinner hnames hw hothers
  · rw [henc, Document.ofValue, Decoder.openRecord, Document.ofMembers_eq_map, List.map_append,
      ← Document.ofMembers_eq_map, ← Document.ofMembers_eq_map, ← hrecord]
    apply recordObject_of_writes hinner hnames hneeded hw
    intro seen
    exact recordMembers_keep record hput hothers hothers.names

/-- **A record that keeps nothing else round-trips** when its parts do. -/
theorem closedRecord_roundTrips (henc : enc a = .object (Members.typed ts)) (hinner : o.enter = .ok inner)
    (hnames : (fields.flatMap Field.names).Nodup)
    (hneeded : ∀ f ∈ fields, f.required = true → f.name ∈ (Members.typed ts).names)
    (hw : Writes kind inner fields absent ts a) :
    RoundTrips kind (Decoder.closedRecord title fields absent) enc o a := by
  constructor
  · rw [henc, ← List.append_nil (Members.typed ts)]
    exact plain_record hinner hnames hw .nil
  · rw [henc, Document.ofValue, Decoder.closedRecord, ← List.append_nil (Document.ofMembers _)]
    exact recordObject_of_writes hinner hnames hneeded hw fun _ => rfl

end Records

end BidAdapter.Json
