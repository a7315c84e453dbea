import Mathlib.Data.List.Forall2
import Mathlib.Data.List.Nodup
import Custody.Document.Reader

/-!
# Records that are told again

A mapping of fields can be told again with some of its fields only: in another order and with entries
that are no fields in between, or as the sequence of the values of its first fields. Whichever form is
chosen, a record is read from it in the same way: each field that was kept is assigned, and the others
stay as they are in the blank record. That takes assignments that do not interfere with one another.
-/

set_option autoImplicit false

namespace Custody.Document

variable {α β ε : Type}

/-! ## Mappings told again -/

/-- A mapping told again with the fields that are kept. -/
inductive Retold (kept : String → Bool) : Document → Document → Prop where
  | mapping {fields entries : List (String × Document)} (others : List (String × Document))
      (foreign : ∀ other ∈ others, other.1 ∉ fields.map Prod.fst)
      (order : entries.Perm (fields.filter (kept ·.1) ++ others)) :
      Retold kept (.mapping fields) (.mapping entries)
  | sequence (front back : List (String × Document))
      (front_kept : ∀ field ∈ front, kept field.1 = true)
      (back_left : ∀ field ∈ back, kept field.1 = false) :
      Retold kept (.mapping (front ++ back)) (.sequence (front.map Prod.snd))

theorem Retold.refl {kept : String → Bool} {fields : List (String × Document)}
    (all : ∀ field ∈ fields, kept field.1 = true) :
    Retold kept (.mapping fields) (.mapping fields) := by
  refine .mapping [] nofun ?_
  rw [List.append_nil, List.filter_eq_self.2 all]

/-! ## Steps that succeed -/

theorem foldlM_of_ok {step : β → α → Except ε β} {next : β → α → β} {items : List α}
    (steps : ∀ item ∈ items, ∀ state, step state item = .ok (next state item)) (state : β) :
    items.foldlM step state = .ok (items.foldl next state) := by
  induction items generalizing state with
  | nil => rfl
  | cons item rest ih =>
      rw [List.foldlM_cons, steps item List.mem_cons_self]
      exact ih (fun other member => steps other (List.mem_cons_of_mem item member)) _

theorem readSequence_of_ok {read : Reader α} {values : List α} {items : List Document}
    (reads : List.Forall₂ (fun value item => read item = .ok value) values items) :
    readSequence read (.sequence items) = .ok values := by
  change items.mapM read = .ok values
  induction reads with
  | nil => rfl
  | cons first _ ih =>
      rw [List.mapM_cons, first, ih]
      rfl

theorem foldl_of_unchanged {next : β → α → β} {items : List α}
    (unchanged : ∀ item ∈ items, ∀ state, next state item = state) (state : β) :
    items.foldl next state = state := by
  induction items with
  | nil => rfl
  | cons item rest ih =>
      rw [List.foldl_cons, unchanged item List.mem_cons_self]
      exact ih fun other member => unchanged other (List.mem_cons_of_mem item member)

/-! ## What is told of fields -/

/-- A field with a value that can be read for it, and with what reading it does to a record. -/
structure Account (α : Type) where
  field : Field α
  value : Document
  put : α → α
  assign_eq : ∀ record, field.assign value record = .ok (put record)

namespace Account

def name (account : Account α) : String := account.field.name

def entry (account : Account α) : String × Document := (account.name, account.value)

@[simp]
theorem entry_fst (account : Account α) : account.entry.1 = account.name := rfl

end Account

/-- An account for each field of a record type. The fields have different names, and it does not matter
which one is assigned first. -/
structure RecordType.Accounts (type : RecordType α) where
  all : List (Account α)
  fields_eq : all.map Account.field = type.fields
  names_nodup : (all.map Account.name).Nodup
  commute : ∀ first ∈ all, ∀ second ∈ all, ∀ record,
    second.put (first.put record) = first.put (second.put record)

namespace RecordType.Accounts

variable {type : RecordType α} (accounts : type.Accounts)

def document : Document := .mapping (accounts.all.map Account.entry)

/-- The blank record with the fields that are kept. -/
def keeping (kept : String → Bool) : α :=
  (accounts.all.filter (kept ·.name)).foldl (fun record account => account.put record) type.blank

def effect (record : α) (entry : String × Document) : α :=
  match accounts.all.find? (·.name == entry.1) with
  | some account => account.put record
  | none => record

theorem find?_field (key : String) :
    type.fields.find? (·.name == key) =
      (accounts.all.find? (·.name == key)).map Account.field := by
  rw [← accounts.fields_eq, List.find?_map]
  rfl

variable {accounts}

theorem find?_name {account : Account α} (member : account ∈ accounts.all) :
    accounts.all.find? (·.name == account.name) = some account := by
  have nodup := accounts.names_nodup
  revert nodup member
  generalize accounts.all = all
  intro member nodup
  induction all with
  | nil => cases member
  | cons first rest ih =>
      obtain ⟨apart, nodup⟩ := List.nodup_cons.1 nodup
      rcases List.mem_cons.1 member with rfl | member
      · simp
      · have other : first.name ≠ account.name :=
          fun same => apart (same ▸ List.mem_map_of_mem member)
        rw [List.find?_cons_of_neg (by simpa using other)]
        exact ih member nodup

theorem find?_foreign {key : String} (foreign : key ∉ accounts.all.map Account.name) :
    accounts.all.find? (·.name == key) = none := by
  rw [List.find?_eq_none]
  intro account member same
  exact foreign (List.mem_map.2 ⟨account, member, by simpa using same⟩)

theorem effect_entry {account : Account α} (member : account ∈ accounts.all) (record : α) :
    accounts.effect record account.entry = account.put record := by
  unfold effect
  rw [Account.entry_fst, find?_name member]

theorem effect_foreign {entry : String × Document}
    (foreign : entry.1 ∉ accounts.all.map Account.name) (record : α) :
    accounts.effect record entry = record := by
  unfold effect
  rw [find?_foreign foreign]

theorem effect_comm (record : α) (first second : String × Document) :
    accounts.effect (accounts.effect record first) second =
      accounts.effect (accounts.effect record second) first := by
  unfold effect
  cases found : accounts.all.find? (·.name == first.1) with
  | none => rfl
  | some account =>
      cases found' : accounts.all.find? (·.name == second.1) with
      | none => rfl
      | some other =>
          exact accounts.commute account (List.mem_of_find?_eq_some found) other
            (List.mem_of_find?_eq_some found') record

theorem assignEntry_entry {account : Account α} (member : account ∈ accounts.all) (record : α) :
    type.assignEntry record account.entry = .ok (accounts.effect record account.entry) := by
  rw [effect_entry member]
  unfold assignEntry
  rw [Account.entry_fst, accounts.find?_field, find?_name member]
  exact account.assign_eq record

theorem assignEntry_foreign {entry : String × Document}
    (foreign : entry.1 ∉ accounts.all.map Account.name) (record : α) :
    type.assignEntry record entry = .ok (accounts.effect record entry) := by
  rw [effect_foreign foreign]
  unfold assignEntry
  rw [accounts.find?_field, find?_foreign foreign]
  rfl

/-! ## Reading -/

variable {kept : String → Bool}

/-- The fields that are kept do what they do, in whatever order they come and whatever is in between. -/
theorem foldl_effect {entries others : List (String × Document)}
    (foreign : ∀ other ∈ others, other.1 ∉ accounts.all.map Account.name)
    (order : entries.Perm ((accounts.all.filter (kept ·.name)).map Account.entry ++ others)) :
    entries.foldl accounts.effect type.blank = accounts.keeping kept := by
  -- the entries commute, so the fields may come first and what is foreign last
  rw [order.foldl_eq' fun first _ second _ record => effect_comm record first second,
    List.foldl_append, foldl_of_unchanged fun other member => effect_foreign (foreign other member),
    List.foldl_map, keeping]
  refine List.foldl_ext _ _ _ fun record account member => ?_
  exact effect_entry (List.mem_of_mem_filter member) record

theorem readEntries_kept {entries others : List (String × Document)}
    (required : ∀ field ∈ type.fields, field.required = true → kept field.name = true)
    (foreign : ∀ other ∈ others, other.1 ∉ accounts.all.map Account.name)
    (order : entries.Perm ((accounts.all.filter (kept ·.name)).map Account.entry ++ others)) :
    type.readEntries entries = .ok (accounts.keeping kept) := by
  have assigned : entries.foldlM type.assignEntry type.blank = .ok (accounts.keeping kept) := by
    rw [← foldl_effect foreign order]
    refine foldlM_of_ok (fun entry member record => ?_) _
    rcases List.mem_append.1 (order.mem_iff.1 member) with told | other
    · obtain ⟨account, keeps, rfl⟩ := List.mem_map.1 told
      exact assignEntry_entry (List.mem_of_mem_filter keeps) record
    · exact assignEntry_foreign (foreign entry other) record
  have complete : type.fields.find?
      (fun field => field.required && !entries.any (·.1 == field.name)) = none := by
    rw [List.find?_eq_none]
    intro field member missing
    obtain ⟨needed, absent⟩ := Bool.and_eq_true_iff.1 missing
    obtain ⟨account, told, rfl⟩ := List.mem_map.1 (accounts.fields_eq ▸ member)
    have present : account.entry ∈ entries :=
      order.mem_iff.2 (List.mem_append_left _ (List.mem_map_of_mem
        (List.mem_filter.2 ⟨told, required _ member needed⟩)))
    simp only [Bool.not_eq_true', List.any_eq_false] at absent
    exact absent _ present (beq_self_eq_true account.name)
  rw [RecordType.readEntries, assigned]
  simp only [bind, Except.bind, complete]

theorem zip_values (front back : List (Account α)) :
    ((front ++ back).map Account.field).zip (front.map Account.value) =
      front.map fun account => (account.field, account.value) := by
  induction front with
  | nil => simp
  | cons account rest ih => simpa using ih

theorem readItems_front {front back : List (Account α)} (split : accounts.all = front ++ back)
    (required : ∀ field ∈ type.fields, field.required = true → kept field.name = true)
    (front_kept : ∀ account ∈ front, kept account.name = true)
    (back_left : ∀ account ∈ back, kept account.name = false) (dialect : Dialect) :
    type.readItems dialect (front.map Account.value) = .ok (accounts.keeping kept) := by
  have fields : type.fields = (front ++ back).map Account.field := by
    rw [← split, accounts.fields_eq]
  have filtered : accounts.all.filter (kept ·.name) = front := by
    rw [split, List.filter_append, List.filter_eq_self.2 front_kept,
      List.filter_eq_nil_iff.2 (by simpa using back_left), List.append_nil]
  have rest : ((front ++ back).map Account.field).drop (front.map Account.value).length =
      back.map Account.field := by
    rw [List.map_append, List.length_map, List.drop_left' (List.length_map _)]
  -- the sequence ends where fields are left out, and those are not required
  have complete : (back.map Account.field).findIdx? (·.required) = none := by
    rw [List.findIdx?_eq_none_iff]
    intro field member
    obtain ⟨account, behind, rfl⟩ := List.mem_map.1 member
    by_contra needed
    have among : account.field ∈ type.fields :=
      fields ▸ List.mem_map_of_mem (List.mem_append_right front behind)
    have keeps := required account.field among (by simpa using needed)
    rw [show account.field.name = account.name from rfl, back_left account behind] at keeps
    cases keeps
  have short : ¬(dialect = .json ∧
      ((front ++ back).map Account.field).length < (front.map Account.value).length) := by
    simp
  rw [RecordType.readItems, fields, rest, complete, zip_values, List.foldlM_map, keeping, filtered]
  dsimp only
  rw [foldlM_of_ok fun account _ record => account.assign_eq record]
  exact if_neg short

/-- However a record is told again, the fields that were kept are read and the others are blank. -/
theorem read_retold {d : Document} (retold : Retold kept accounts.document d)
    (required : ∀ field ∈ type.fields, field.required = true → kept field.name = true)
    (dialect : Dialect) : type.read dialect d = .ok (accounts.keeping kept) := by
  unfold document at retold
  generalize told : accounts.all.map Account.entry = fields at retold
  cases retold with
  | mapping others foreign order =>
      subst told
      rw [List.filter_map] at order
      refine readEntries_kept required (fun other member => ?_) order
      simpa using foreign other member
  | sequence values rest front_kept back_left =>
      obtain ⟨front, back, split, rfl, rfl⟩ := List.map_eq_append_iff.1 told
      rw [List.map_map]
      refine readItems_front split required (fun account member => ?_) (fun account member => ?_)
        dialect
      · exact front_kept account.entry (List.mem_map_of_mem member)
      · exact back_left account.entry (List.mem_map_of_mem member)

theorem read_retold_of_optional {d : Document} (retold : Retold kept accounts.document d)
    (optional : ∀ field ∈ type.fields, field.required = false) (dialect : Dialect) :
    type.read dialect d = .ok (accounts.keeping kept) := by
  refine read_retold retold (fun field member required => ?_) dialect
  rw [optional field member] at required
  cases required

end RecordType.Accounts

end Custody.Document
