import Ipv4Router.Proofs.OctetRuns

/-!
# Header fields

The header of a frame or packet is a row of fields.  A field is a run of octets at a fixed
place: its setter overwrites the run and its getter reads nothing else.

If no two fields overlap, a header behaves like a record, although all its fields are kept in
one string.  After any sequence of setters, each field shows the value it was given last, or
what it showed before if it was given none.  Octets that belong to no field that was set keep
their values, and the order in which different fields are set does not matter.
-/

namespace Ipv4Router

/-- How the values of a type are laid out in octets.  What is read at a place depends on the
octets there and not on the place. -/
structure OctetCode (Value : Type) where
  length : Nat
  toOctets : Value → Octets
  readAt : Octets → Nat → Value
  length_toOctets : ∀ value, (toOctets value).length = length
  readAt_toOctets : ∀ value, readAt (toOctets value) 0 = value
  readAt_congr : ∀ {first second : Octets} {offset other : Nat},
    (∀ step < length, first.octetAt (offset + step) = second.octetAt (other + step)) →
      readAt first offset = readAt second other

namespace OctetCode

def octet : OctetCode UInt8 where
  length := 1
  toOctets value := [value]
  readAt := Octets.octetAt
  length_toOctets _ := rfl
  readAt_toOctets _ := rfl
  readAt_congr octetsEq := octetsEq 0 (by decide)

def word : OctetCode UInt16 where
  length := 2
  toOctets := Octets.ofWord
  readAt := Octets.wordAt
  length_toOctets := Octets.length_ofWord
  readAt_toOctets := Octets.word_ofWord
  readAt_congr {first second offset other} octetsEq := by
    have high : first.octetAt offset = second.octetAt other := octetsEq 0 (by decide)
    rw [Octets.wordAt, Octets.wordAt, high, octetsEq 1 (by decide)]

def macAddress : OctetCode MacAddress where
  length := 6
  toOctets := MacAddress.toOctets
  readAt := MacAddress.readAt
  length_toOctets := MacAddress.length_toOctets
  readAt_toOctets _ := rfl
  readAt_congr := MacAddress.readAt_congr

def ipv4Address : OctetCode Ipv4Address where
  length := 4
  toOctets := Ipv4Address.toOctets
  readAt := Ipv4Address.readAt
  length_toOctets := Ipv4Address.length_toOctets
  readAt_toOctets _ := rfl
  readAt_congr := Ipv4Address.readAt_congr

/-- Four octets whose meaning is left open. -/
def fourOctets : OctetCode (UInt8 × UInt8 × UInt8 × UInt8) where
  length := 4
  toOctets := fun (first, second, third, fourth) => [first, second, third, fourth]
  readAt octets offset :=
    (octets.octetAt offset, octets.octetAt (offset + 1), octets.octetAt (offset + 2),
      octets.octetAt (offset + 3))
  length_toOctets _ := rfl
  readAt_toOctets _ := rfl
  readAt_congr {first second offset other} octetsEq := by
    have atZero : first.octetAt offset = second.octetAt other := octetsEq 0 (by decide)
    rw [atZero, octetsEq 1 (by decide), octetsEq 2 (by decide), octetsEq 3 (by decide)]

/-- A value that was laid down is read back. -/
theorem readAt_overwrite {Value : Type} (code : OctetCode Value) {octets : Octets} {start : Nat}
    (value : Value) (fits : start + code.length ≤ octets.length) :
    code.readAt (octets.overwrite start (code.toOctets value)) start = value := by
  rw [← code.length_toOctets value] at fits
  calc
    code.readAt (octets.overwrite start (code.toOctets value)) start =
        code.readAt (code.toOctets value) 0 := by
      apply code.readAt_congr
      intro step small
      rw [← code.length_toOctets value] at small
      rw [Octets.octetAt_overwrite_of_fits fits small, Nat.zero_add]
    _ = value := code.readAt_toOctets value

end OctetCode

/-- A header field of a view of octet strings. -/
structure HeaderField {View : Type} (octets : View → Octets) where
  Value : Type
  Reading : Type
  start : Nat
  length : Nat
  set : View → Value → View
  get : View → Reading
  /-- What a value is read back as.  A field may keep less than its setter is given. -/
  kept : Value → Reading
  /-- The octets that the setter puts in place. -/
  run : Value → Octets
  length_run : ∀ value, (run value).length = length
  octets_set : ∀ view value, octets (set view value) = (octets view).overwrite start (run value)
  get_congr : ∀ first second,
    (∀ step < length,
      (octets first).octetAt (start + step) = (octets second).octetAt (start + step)) →
        get first = get second
  get_set : ∀ view value, start + length ≤ (octets view).length →
    get (set view value) = kept value

namespace HeaderField

variable {View : Type} {octets : View → Octets}

/-- The place behind the field. -/
def stop (field : HeaderField octets) : Nat :=
  field.start + field.length

/-- An offset lies in a field. -/
def Covers (field : HeaderField octets) (offset : Nat) : Prop :=
  field.start ≤ offset ∧ offset < field.stop

instance (field : HeaderField octets) (offset : Nat) : Decidable (field.Covers offset) :=
  inferInstanceAs (Decidable (_ ∧ _))

section Set

variable (field : HeaderField octets) (view : View) (value : field.Value) {offset : Nat}

@[simp]
theorem length_set : (octets (field.set view value)).length = (octets view).length := by
  rw [field.octets_set, Octets.length_overwrite]

theorem octetAt_set_of_not_covers (outside : ¬ field.Covers offset) :
    (octets (field.set view value)).octetAt offset = (octets view).octetAt offset := by
  rw [field.octets_set, Octets.octetAt_overwrite, field.length_run, if_neg]
  exact fun inside => outside ⟨inside.1, inside.2.1⟩

theorem octetAt_set_of_covers (fits : field.stop ≤ (octets view).length)
    (inside : field.Covers offset) :
    (octets (field.set view value)).octetAt offset =
      (field.run value).octetAt (offset - field.start) := by
  rw [field.octets_set, Octets.octetAt_overwrite, field.length_run,
    if_pos ⟨inside.1, inside.2, Nat.lt_of_lt_of_le inside.2 fits⟩]

end Set

theorem get_eq_of_covers (field : HeaderField octets) {first second : View}
    (octetsEq : ∀ offset, field.Covers offset →
      (octets first).octetAt offset = (octets second).octetAt offset) :
    field.get first = field.get second :=
  field.get_congr first second
    (fun _ small => octetsEq _ ⟨Nat.le_add_right _ _, Nat.add_lt_add_left small _⟩)

/-- A field that holds a coded value, which may be shown as something else. -/
def coded {Value Reading : Type} (code : OctetCode Value) (start : Nat) (kept : Value → Reading)
    (set : View → Value → View) (get : View → Reading)
    (octets_set : ∀ view value,
      octets (set view value) = (octets view).overwrite start (code.toOctets value))
    (get_eq : ∀ view, get view = kept (code.readAt (octets view) start)) :
    HeaderField octets where
  Value := Value
  Reading := Reading
  start := start
  length := code.length
  set := set
  get := get
  kept := kept
  run := code.toOctets
  length_run := code.length_toOctets
  octets_set := octets_set
  get_congr first second octetsEq := by
    rw [get_eq, get_eq, code.readAt_congr octetsEq]
  get_set view value inside := by
    rw [get_eq, octets_set, code.readAt_overwrite value inside]

/-- A field that shows what it was set to. -/
def plain {Value : Type} (code : OctetCode Value) (start : Nat) (set : View → Value → View)
    (get : View → Value)
    (octets_set : ∀ view value,
      octets (set view value) = (octets view).overwrite start (code.toOctets value))
    (get_eq : ∀ view, get view = code.readAt (octets view) start) : HeaderField octets :=
  coded code start id set get octets_set get_eq

end HeaderField

/-- The header of a view of octet strings: its fields by their names, no two of which
overlap. -/
structure HeaderLayout (Name : Type) {View : Type} (octets : View → Octets) where
  field : Name → HeaderField octets
  headerLength : Nat
  within : ∀ name, (field name).stop ≤ headerLength
  apart : ∀ first second, first ≠ second →
    (field first).stop ≤ (field second).start ∨ (field second).stop ≤ (field first).start

namespace HeaderLayout

variable {Name View : Type} {octets : View → Octets} (layout : HeaderLayout Name octets)

/-- A use of a setter: the field that is set and the value it is given. -/
structure Change where
  name : Name
  value : (layout.field name).Value

/-- Run setters one after the other. -/
def setAll (view : View) (changes : List layout.Change) : View :=
  changes.foldl (fun view change => (layout.field change.name).set view change.value) view

/-- None of the changes is one of the field. -/
def Leaves (changes : List layout.Change) (name : Name) : Prop :=
  ∀ change ∈ changes, change.name ≠ name

instance [DecidableEq Name] (changes : List layout.Change) (name : Name) :
    Decidable (layout.Leaves changes name) :=
  inferInstanceAs (Decidable (∀ change ∈ changes, change.name ≠ name))

/-- Of the changes of a field, the last gives it a value. -/
def SetsLast (changes : List layout.Change) (name : Name)
    (value : (layout.field name).Value) : Prop :=
  ∃ before after, changes = before ++ ⟨name, value⟩ :: after ∧ layout.Leaves after name

/-- The fields of a view are as independent of each other as those of a record. -/
structure Independent (view : View) : Prop where
  /-- A field that is set shows the last value it is given. -/
  last : ∀ changes name value, layout.SetsLast changes name value →
    (layout.field name).get (layout.setAll view changes) = (layout.field name).kept value
  /-- A field that is not set shows what it did before. -/
  original : ∀ changes name, layout.Leaves changes name →
    (layout.field name).get (layout.setAll view changes) = (layout.field name).get view
  /-- Octets outside the fields that are set keep their values. -/
  elsewhere : ∀ changes offset,
    (∀ change ∈ changes, ¬ (layout.field change.name).Covers offset) →
      (octets (layout.setAll view changes)).octetAt offset = (octets view).octetAt offset
  length : ∀ changes, (octets (layout.setAll view changes)).length = (octets view).length
  /-- No setter or getter ever reaches past the end. -/
  within : ∀ changes name,
    (layout.field name).stop ≤ (octets (layout.setAll view changes)).length
  /-- The octets depend on the last value of each field only. -/
  determined : ∀ changes others,
    (∀ name value, layout.SetsLast changes name value ↔ layout.SetsLast others name value) →
      octets (layout.setAll view changes) = octets (layout.setAll view others)
  /-- Setters of different fields may change places. -/
  exchange : ∀ before first second after, first.name ≠ second.name →
    octets (layout.setAll view (before ++ first :: second :: after)) =
      octets (layout.setAll view (before ++ second :: first :: after))

section Runs

variable {layout} {view : View} {changes others : List layout.Change} {name : Name}
  {value : (layout.field name).Value} {offset : Nat}

theorem not_covers_of_ne {first second : Name} (different : first ≠ second)
    (inFirst : (layout.field first).Covers offset) :
    ¬ (layout.field second).Covers offset := by
  intro inSecond
  have disjoint := layout.apart first second different
  simp only [HeaderField.Covers] at inFirst inSecond
  omega

@[simp]
theorem length_setAll (view : View) (changes : List layout.Change) :
    (octets (layout.setAll view changes)).length = (octets view).length := by
  induction changes generalizing view with
  | nil => rfl
  | cons change later ih =>
      exact (ih _).trans ((layout.field change.name).length_set view change.value)

theorem octetAt_setAll_of_not_covers
    (outside : ∀ change ∈ changes, ¬ (layout.field change.name).Covers offset) :
    (octets (layout.setAll view changes)).octetAt offset = (octets view).octetAt offset := by
  induction changes generalizing view with
  | nil => rfl
  | cons change later ih =>
      obtain ⟨outsideFirst, outsideLater⟩ := List.forall_mem_cons.mp outside
      exact (ih outsideLater).trans
        ((layout.field change.name).octetAt_set_of_not_covers view change.value outsideFirst)

theorem not_covers_of_leaves (leaves : layout.Leaves changes name)
    (inside : (layout.field name).Covers offset) :
    ∀ change ∈ changes, ¬ (layout.field change.name).Covers offset :=
  fun change member => not_covers_of_ne (leaves change member).symm inside

theorem get_setAll_of_leaves (leaves : layout.Leaves changes name) :
    (layout.field name).get (layout.setAll view changes) = (layout.field name).get view :=
  (layout.field name).get_eq_of_covers
    (fun _ inside => octetAt_setAll_of_not_covers (not_covers_of_leaves leaves inside))

theorem setAll_append (view : View) (before after : List layout.Change) :
    layout.setAll view (before ++ after) = layout.setAll (layout.setAll view before) after :=
  List.foldl_append

theorem setAll_cons (view : View) (change : layout.Change) (later : List layout.Change) :
    layout.setAll view (change :: later) =
      layout.setAll ((layout.field change.name).set view change.value) later :=
  rfl

theorem mem_of_setsLast (setsLast : layout.SetsLast changes name value) :
    ⟨name, value⟩ ∈ changes := by
  obtain ⟨before, after, rfl, -⟩ := setsLast
  exact List.mem_append_right before List.mem_cons_self

theorem setsLast_cons_iff {change : layout.Change} {later : List layout.Change} :
    layout.SetsLast (change :: later) name value ↔
      layout.SetsLast later name value ∨ change = ⟨name, value⟩ ∧ layout.Leaves later name := by
  constructor
  · rintro ⟨before, after, split, leaves⟩
    cases before with
    | nil =>
        obtain ⟨rfl, rfl⟩ := List.cons.inj split
        exact .inr ⟨rfl, leaves⟩
    | cons first before =>
        obtain ⟨rfl, rfl⟩ := List.cons.inj split
        exact .inl ⟨before, after, rfl, leaves⟩
  · rintro (⟨before, after, rfl, leaves⟩ | ⟨rfl, leaves⟩)
    · exact ⟨change :: before, after, rfl, leaves⟩
    · exact ⟨[], later, rfl, leaves⟩

/-- A field that is set is given some value last. -/
theorem exists_setsLast (set : ¬ layout.Leaves changes name) :
    ∃ value, layout.SetsLast changes name value := by
  induction changes with
  | nil => exact absurd (fun _ member => absurd member List.not_mem_nil) set
  | cons change later ih =>
      by_cases leaves : layout.Leaves later name
      · have sameName : change.name = name :=
          of_not_not (fun different => set (List.forall_mem_cons.mpr ⟨different, leaves⟩))
        subst sameName
        exact ⟨change.value, setsLast_cons_iff.mpr (.inr ⟨rfl, leaves⟩)⟩
      · obtain ⟨value, setsLast⟩ := ih leaves
        exact ⟨value, setsLast_cons_iff.mpr (.inl setsLast)⟩

/-- The value of a field that is set again later does not count. -/
theorem setsLast_superseded {change : layout.Change} {later : List layout.Change}
    (again : ¬ layout.Leaves later change.name) :
    layout.SetsLast (change :: later) name value ↔ layout.SetsLast later name value := by
  rw [setsLast_cons_iff, or_iff_left]
  rintro ⟨rfl, leaves⟩
  exact again leaves

theorem exists_setsLast_of_mem {change : layout.Change} (member : change ∈ changes) :
    ∃ value, layout.SetsLast changes change.name value :=
  exists_setsLast (fun leaves => leaves change member rfl)

section Long

variable (long : layout.headerLength ≤ (octets view).length)
include long

theorem stop_le_length_setAll (changes : List layout.Change) (name : Name) :
    (layout.field name).stop ≤ (octets (layout.setAll view changes)).length := by
  rw [length_setAll]
  exact Nat.le_trans (layout.within name) long

/-- A field shows its last value, as the later setters are of other fields. -/
theorem get_setAll_of_setsLast (setsLast : layout.SetsLast changes name value) :
    (layout.field name).get (layout.setAll view changes) = (layout.field name).kept value := by
  obtain ⟨before, after, rfl, leaves⟩ := setsLast
  rw [setAll_append, setAll_cons, get_setAll_of_leaves leaves]
  exact (layout.field name).get_set _ value (stop_le_length_setAll long before name)

theorem octetAt_setAll_of_setsLast (setsLast : layout.SetsLast changes name value)
    (inside : (layout.field name).Covers offset) :
    (octets (layout.setAll view changes)).octetAt offset =
      ((layout.field name).run value).octetAt (offset - (layout.field name).start) := by
  obtain ⟨before, after, rfl, leaves⟩ := setsLast
  rw [setAll_append, setAll_cons,
    octetAt_setAll_of_not_covers (not_covers_of_leaves leaves inside)]
  exact (layout.field name).octetAt_set_of_covers _ value
    (stop_le_length_setAll long before name) inside

/-- Sequences that agree on the last value of each field leave the same octets. -/
theorem octets_setAll_of_sameLast
    (sameLast : ∀ name value,
      layout.SetsLast changes name value ↔ layout.SetsLast others name value) :
    octets (layout.setAll view changes) = octets (layout.setAll view others) := by
  apply Octets.ext_octetAt
  · rw [length_setAll, length_setAll]
  intro offset
  -- An octet of some field that is set is decided by the last value of this field alone.
  by_cases covered : ∃ change ∈ changes, (layout.field change.name).Covers offset
  · obtain ⟨change, member, inside⟩ := covered
    obtain ⟨value, setsLast⟩ := exists_setsLast_of_mem member
    rw [octetAt_setAll_of_setsLast long setsLast inside,
      octetAt_setAll_of_setsLast long ((sameLast _ _).mp setsLast) inside]
  -- All other octets stay, as the other sequence sets the same fields.
  · have outside : ∀ change ∈ changes, ¬ (layout.field change.name).Covers offset :=
      fun change member inside => covered ⟨change, member, inside⟩
    have othersOutside : ∀ other ∈ others, ¬ (layout.field other.name).Covers offset := by
      intro other member inside
      obtain ⟨value, setsLast⟩ := exists_setsLast_of_mem member
      exact outside _ (mem_of_setsLast ((sameLast _ _).mpr setsLast)) inside
    rw [octetAt_setAll_of_not_covers outside, octetAt_setAll_of_not_covers othersOutside]

end Long

theorem octets_set_congr (field : HeaderField octets) (value : field.Value) {first second : View}
    (octetsEq : octets first = octets second) :
    octets (field.set first value) = octets (field.set second value) := by
  rw [field.octets_set, field.octets_set, octetsEq]

theorem octets_setAll_congr {first second : View} (octetsEq : octets first = octets second) :
    octets (layout.setAll first changes) = octets (layout.setAll second changes) := by
  induction changes generalizing first second with
  | nil => exact octetsEq
  | cons change later ih => exact ih (octets_set_congr _ change.value octetsEq)

theorem octets_set_comm (view : View) {first second : layout.Change}
    (different : first.name ≠ second.name) :
    octets (layout.setAll view [first, second]) = octets (layout.setAll view [second, first]) := by
  simp only [setAll, List.foldl_cons, List.foldl_nil, HeaderField.octets_set]
  rcases layout.apart _ _ different with before | behind
  · refine (Octets.overwrite_comm _ ?_).symm
    rw [HeaderField.length_run]
    exact before
  · refine Octets.overwrite_comm _ ?_
    rw [HeaderField.length_run]
    exact behind

theorem octets_setAll_exchange (view : View) (before : List layout.Change)
    {first second : layout.Change} (after : List layout.Change)
    (different : first.name ≠ second.name) :
    octets (layout.setAll view (before ++ first :: second :: after)) =
      octets (layout.setAll view (before ++ second :: first :: after)) := by
  rw [setAll_append, setAll_append]
  exact octets_setAll_congr (octets_set_comm _ different)

/-- In a view that is as long as the header, the fields are independent. -/
theorem independent (long : layout.headerLength ≤ (octets view).length) :
    layout.Independent view where
  last _ _ _ := get_setAll_of_setsLast long
  original _ _ := get_setAll_of_leaves
  elsewhere _ _ := octetAt_setAll_of_not_covers
  length := length_setAll view
  within := stop_le_length_setAll long
  determined _ _ := octets_setAll_of_sameLast long
  exchange before _ _ after := octets_setAll_exchange view before after

end Runs

end HeaderLayout

end Ipv4Router
