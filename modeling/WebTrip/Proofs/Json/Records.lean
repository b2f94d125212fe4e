import WebTrip.Proofs.Json.Outlines

/-!
# Records of any spelling

A text that spells a record has an outline that does. It is an object with the fields among its
members, in any order, or an array of the fields' values.

A reader of records may take the members of the object one after the other. If every known member
that has not come yet sets its field, and every unknown one leaves all fields as they are, the
reader has, at any time, exactly the fields whose names have come.

## Main definitions

- `Slot.Reads`: what may stand for a field, as a text and as an outline
- `RecordReader`: a reader of members, and what it has read when some names have come

## Main statements

- `SpellsRecord.exists_renders`: a text that spells a record has an outline that does
- `RecordReader.readAll`: what has been read when all members have come
-/

namespace WebTrip.Json

/-! ## §1 Fields of texts and of outlines -/

/-- A text may stand for the field only if its outline may. -/
structure Slot.Reads (slot : Slot String) (slot' : Slot Outline) : Prop where
  name : slot'.name = slot.name
  omissible : slot'.omissible = slot.omissible
  value : ∀ text, slot.value text → ∃ o, Json.Reads text o ∧ slot'.value o

/-- The members of an object whose names can be read. -/
def named (members : List (String × Outline)) : List (Option String × Outline) :=
  members.map fun member => (some member.1, member.2)

/-- The outline spells a record, as an object or as an array. -/
inductive OutlinesRecord (slots : List (Slot Outline)) : Outline → Prop where
  | object {members : List (String × Outline)} :
      RecordMembers slots (·.intact = true) members → OutlinesRecord slots (.object (named members))
  | array {items : List Outline} : RecordItems slots items → OutlinesRecord slots (.array items)

section Record

variable {slots : List (Slot String)} {slots' : List (Slot Outline)}

theorem exists_of_mem_right {α β : Type} {R : α → β → Prop} {as : List α} {bs : List β}
    (h : List.Forall₂ R as bs) {b : β} (hb : b ∈ bs) : ∃ a ∈ as, R a b := by
  induction h with
  | nil => cases hb
  | @cons first _ _ _ hfirst _ ih =>
    rcases List.mem_cons.mp hb with rfl | hrest
    · exact ⟨first, List.mem_cons_self .., hfirst⟩
    · obtain ⟨a, ha, hab⟩ := ih hrest
      exact ⟨a, List.mem_cons_of_mem _ ha, hab⟩

/-- The values of a record's members have outlines, the known ones because of the field and the
unknown ones because they are JSON. -/
theorem RecordMembers.exists_outline (hslots : List.Forall₂ Slot.Reads slots slots')
    {members : List (String × String)} (h : RecordMembers slots IsJson members)
    {member : String × String} (hmember : member ∈ members) : ∃ o, Reads member.2 o := by
  by_cases hknown : ∃ slot ∈ slots, slot.name = member.1
  · obtain ⟨slot, hslot, hname⟩ := hknown
    obtain ⟨slot', -, hreads⟩ := exists_of_mem_right hslots.flip hslot
    obtain ⟨o, ho, -⟩ := hreads.value _ (h.known member hmember slot hslot hname)
    exact ⟨o, ho⟩
  · have hunknown : ∀ slot ∈ slots, slot.name ≠ member.1 :=
      fun slot hslot hname => hknown ⟨slot, hslot, hname⟩
    exact exists_reads (h.unknown member hmember hunknown)

/-- The outlines of a record's members are members of the record's outline. -/
theorem RecordMembers.outlines (hslots : List.Forall₂ Slot.Reads slots slots')
    {members : List (String × String)} {members' : List (String × Outline)}
    (h : RecordMembers slots IsJson members)
    (hmembers : List.Forall₂ (fun m m' => m'.1 = m.1 ∧ Reads m.2 m'.2) members members') :
    RecordMembers slots' (·.intact = true) members' := by
  have hnames : members'.map Prod.fst = members.map Prod.fst := by
    clear h
    induction hmembers with
    | nil => rfl
    | cons hfirst _ ih => rw [List.map_cons, List.map_cons, hfirst.1, ih]
  constructor
  case known =>
    intro member' hmember' slot' hslot' hname
    obtain ⟨member, hmember, hsame, hreads⟩ := exists_of_mem_right hmembers hmember'
    obtain ⟨slot, hslot, hfield⟩ := exists_of_mem_right hslots hslot'
    have hslotName : slot.name = member.1 := by rw [← hfield.name, hname, hsame]
    obtain ⟨o, ho, hvalue⟩ := hfield.value _ (h.known member hmember slot hslot hslotName)
    -- the outline that the field promises is the one that has been found
    rwa [← ho.unique hreads]
  case unknown =>
    intro member' hmember' _
    obtain ⟨_, _, _, hreads⟩ := exists_of_mem_right hmembers hmember'
    exact hreads.intact
  case once =>
    intro slot' hslot'
    obtain ⟨slot, hslot, hfield⟩ := exists_of_mem_right hslots hslot'
    rw [hnames, hfield.name]
    exact h.once slot hslot
  case present =>
    intro slot' hslot' homissible
    obtain ⟨slot, hslot, hfield⟩ := exists_of_mem_right hslots hslot'
    rw [hnames, hfield.name]
    exact h.present slot hslot (hfield.omissible.symm.trans homissible)

/-- The values of a record in their order have outlines, which are the values of the record's
outline. -/
theorem RecordItems.exists_outlines {items : List String} (h : RecordItems slots items)
    (hslots : List.Forall₂ Slot.Reads slots slots') :
    ∃ items', List.Forall₂ Reads items items' ∧ RecordItems slots' items' := by
  induction h generalizing slots' with
  | nil homissible =>
    refine ⟨[], .nil, .nil fun slot' hslot' => ?_⟩
    obtain ⟨slot, hslot, hfield⟩ := exists_of_mem_right hslots hslot'
    exact hfield.omissible.trans (homissible slot hslot)
  | cons hvalue _ ih =>
    cases hslots with
    | cons hfield hrest =>
      obtain ⟨o, ho, hvalue'⟩ := hfield.value _ hvalue
      obtain ⟨items', hitems, hrecord⟩ := ih hrest
      exact ⟨o :: items', .cons ho hitems, .cons hvalue' hrecord⟩

/-- **Records.** A text that spells a record is read as an outline that does. -/
theorem SpellsRecord.exists_renders {text : String} (h : SpellsRecord slots text)
    (hslots : List.Forall₂ Slot.Reads slots slots') :
    ∃ o, Renders text o ∧ OutlinesRecord slots' o := by
  cases h with
  | @object members items hrecord hmembers hobject =>
    have houtlines : ∀ member ∈ members, ∃ member' : String × Outline,
        member'.1 = member.1 ∧ Reads member.2 member'.2 := by
      intro member hmember
      obtain ⟨o, ho⟩ := hrecord.exists_outline hslots hmember
      exact ⟨(member.1, o), rfl, ho⟩
    obtain ⟨members', hmembers'⟩ := exists_forall₂ houtlines
    have htexts : List.Forall₂ ReadsMember items (named members') := by
      rw [named, List.forall₂_map_right_iff]
      refine forall₂_along hmembers hmembers' fun member item member' hitem hmember' => ?_
      obtain ⟨name, hname, hmember⟩ := hitem
      refine ⟨name, member.2, ?_, hmember, hmember'.2⟩
      rw [hmember'.1]
      exact spells_string hname
    exact ⟨_, renders_isObject htexts hobject, .object (hrecord.outlines hslots hmembers')⟩
  | array hrecord harray =>
    obtain ⟨items', hitems, hrecord'⟩ := hrecord.exists_outlines hslots
    exact ⟨_, renders_isArray hitems harray, .array hrecord'⟩

end Record

/-! ## §2 Reading members in any order -/

/-- The field, if its name is among those that have come. -/
def fieldAmong {α : Type} (names : List String) (name : String) (a : α) : Option α :=
  if name ∈ names then some a else none

section Fields

variable {α : Type} {names : List String} {name other : String} {a : α}

theorem fieldAmong_of_not_mem (h : name ∉ names) : fieldAmong names name a = none :=
  if_neg h

theorem fieldAmong_of_mem (h : name ∈ names) : fieldAmong names name a = some a :=
  if_pos h

/-- A name that comes brings its own field. -/
@[simp]
theorem fieldAmong_append_self : fieldAmong (names ++ [name]) name a = some a :=
  fieldAmong_of_mem (by simp)

/-- A name that comes leaves the other fields as they are. -/
theorem fieldAmong_append_of_ne (h : name ≠ other) :
    fieldAmong (names ++ [other]) name a = fieldAmong names name a := by
  simp [fieldAmong, h]

/-- A list that may be left out and has not come is empty. -/
theorem getD_fieldAmong_list {items : List α} (h : items.isEmpty = true ∨ name ∈ names) :
    (fieldAmong names name items).getD [] = items := by
  by_cases hmem : name ∈ names
  · rw [fieldAmong_of_mem hmem, Option.getD_some]
  · rw [fieldAmong_of_not_mem hmem, Option.getD_none, List.isEmpty_iff.mp (h.resolve_right hmem)]

/-- A value that may be left out and has not come is absent. -/
theorem getD_fieldAmong_option {value : Option α} (h : value.isNone = true ∨ name ∈ names) :
    (fieldAmong names name value).getD none = value := by
  by_cases hmem : name ∈ names
  · rw [fieldAmong_of_mem hmem, Option.getD_some]
  · rw [fieldAmong_of_not_mem hmem, Option.getD_none,
      Option.isNone_iff_eq_none.mp (h.resolve_right hmem)]

end Fields

/-- A reader that takes the members of a record one by one, and what it has read when some names
have come. -/
structure RecordReader {P : Type} (slots : List (Slot Outline))
    (read : P → Option String → Outline → Except Failure P) (state : List String → P) : Prop where
  known : ∀ slot ∈ slots, ∀ (names : List String) (o : Outline), slot.name ∉ names → slot.value o →
    read (state names) (some slot.name) o = .ok (state (names ++ [slot.name]))
  unknown : ∀ (names : List String) (name : String) (o : Outline),
    (∀ slot ∈ slots, slot.name ≠ name) → o.intact = true →
      read (state names) (some name) o = .ok (state (names ++ [name]))

/-- A field that may not be left out has come. -/
theorem RecordMembers.omissible_or_mem {slots : List (Slot Outline)}
    {members : List (String × Outline)} (h : RecordMembers slots (·.intact = true) members)
    {slot : Slot Outline} (hslot : slot ∈ slots) :
    slot.omissible = true ∨ slot.name ∈ members.map Prod.fst := by
  cases homissible : slot.omissible with
  | true => exact .inl rfl
  | false => exact .inr (h.present slot hslot homissible)

section Members

variable {P : Type} {slots : List (Slot Outline)}
  {read : P → Option String → Outline → Except Failure P} {state : List String → P}

/-- The next member of a record is read, whatever has come before it. -/
theorem RecordReader.read_next (hread : RecordReader slots read state)
    {before after : List (String × Outline)} {member : String × Outline}
    (h : RecordMembers slots (·.intact = true) (before ++ member :: after)) :
    read (state (before.map Prod.fst)) (some member.1) member.2 =
      .ok (state ((before ++ [member]).map Prod.fst)) := by
  have hmember : member ∈ before ++ member :: after := by simp
  rw [List.map_append, List.map_singleton]
  by_cases hknown : ∃ slot ∈ slots, slot.name = member.1
  · obtain ⟨slot, hslot, hname⟩ := hknown
    have hnew : slot.name ∉ before.map Prod.fst := by
      -- it would have come twice
      intro hbefore
      have honce := h.once slot hslot
      have hcount := List.count_pos_iff.mpr hbefore
      rw [List.map_append, List.map_cons, List.count_append, ← hname, List.count_cons_self] at honce
      omega
    rw [← hname]
    exact hread.known slot hslot _ _ hnew (h.known member hmember slot hslot hname)
  · have hunknown : ∀ slot ∈ slots, slot.name ≠ member.1 :=
      fun slot hslot hname => hknown ⟨slot, hslot, hname⟩
    exact hread.unknown _ _ _ hunknown (h.unknown member hmember hunknown)

/-- The rest of the members is read, whatever has come before it. -/
theorem RecordReader.read_rest (hread : RecordReader slots read state)
    (before : List (String × Outline)) {after : List (String × Outline)}
    (h : RecordMembers slots (·.intact = true) (before ++ after)) :
    (named after).foldlM (fun p member => read p member.1 member.2)
        (state (before.map Prod.fst)) =
      .ok (state ((before ++ after).map Prod.fst)) := by
  -- each member that has been read goes to those before
  induction after generalizing before with
  | nil => rw [List.append_nil]; rfl
  | cons member rest ih =>
    have hrest : before ++ member :: rest = (before ++ [member]) ++ rest := by simp
    have hnext := hread.read_next h
    rw [hrest] at h
    rw [named, List.map_cons, List.foldlM_cons, hnext, hrest, ← ih _ h]
    rfl

/-- **Members.** When all members of a record have come, their fields have been read. -/
theorem RecordReader.readAll (hread : RecordReader slots read state)
    {members : List (String × Outline)} (h : RecordMembers slots (·.intact = true) members) :
    (named members).foldlM (fun p member => read p member.1 member.2) (state []) =
      .ok (state (members.map Prod.fst)) :=
  hread.read_rest [] h

end Members

end WebTrip.Json
