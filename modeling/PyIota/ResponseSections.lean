import PyIota.WaitForTransaction

set_option autoImplicit false

namespace PyIota

section

variable {α : Type}

-- What a JSON value says is what the field holds.
def IsText (value : Json) (s : Str) : Prop := value = .str s

def IsObject (value : Json) (entries : Entries) : Prop := value = .dict entries

def IsTruth (value : Json) (truth : Bool) : Prop := value = .bool truth

def IsList (holds : Json → α → Prop) (value : Json) (items : List α) : Prop :=
  ∃ values, value = .list values ∧ List.Forall₂ holds values items

def IsOptional (holds : Json → α → Prop) (value : Json) (field : Option α) : Prop :=
  field.elim (value = .null) (holds value)

def IsNested (keeps : Entries → α → Prop) (value : Json) (record : α) : Prop :=
  ∃ entries, value = .dict entries ∧ keeps entries record

-- If the section is there, the field holds it unchanged.
def Kept (entries : Entries) (key : Str) (holds : Json → α → Prop) (field : α) : Prop :=
  ∀ value, entries.lookup key = some value → holds value field

def Absent (entries : Entries) (key : Str) : Prop := ∀ value, entries.lookup key = some value → value = .null

-- What is accepted is handed on as it is.
def Exact (validate : Json → Option α) (holds : Json → α → Prop) : Prop :=
  ∀ value field, validate value = some field → holds value field

def Accepted (entries : Entries) (key : Str) (validate : Json → Option α) : Prop :=
  ∀ value, entries.lookup key = some value → ∃ field, validate value = some field

def CamelCase (entries : Entries) : Prop := ∀ entry ∈ entries, cp '_' ∉ entry.1

variable {validate : Json → Option α} {holds : Json → α → Prop} {entries : Entries}

theorem exact_or_none (exact_ : Exact validate holds) : Exact (orNone validate) (IsOptional holds) := by
  intro value field made
  cases value with
  | null =>
      cases made
      rfl
  | _ =>
      obtain ⟨item, itemEq, same⟩ := Option.map_eq_some_iff.mp made
      cases same
      exact exact_ _ _ itemEq

theorem exact_list_of (exact_ : Exact validate holds) : Exact (listOf validate) (IsList holds) := by
  intro value items made
  cases value with
  | list values =>
      refine ⟨values, rfl, ?_⟩
      induction values generalizing items with
      | nil =>
          cases made
          exact .nil
      | cons value values ih =>
          simp only [listOf, List.mapM_cons, Option.bind_eq_bind, Option.bind_eq_some_iff] at made
          obtain ⟨first, firstEq, rest, restEq, same⟩ := made
          cases same
          exact .cons (exact_ value first firstEq) (ih rest restEq)
  | _ => cases made

theorem kept_required (exact_ : Exact validate holds) (key : Str) (field : α)
    (made : required entries key validate = some field) : Kept entries key holds field := by
  intro value present
  rw [required, present] at made
  exact exact_ value field made

theorem kept_optional (exact_ : Exact validate holds) (key : Str) (default field : α)
    (made : optional entries key default validate = some field) : Kept entries key holds field := by
  intro value present
  rw [optional, present] at made
  exact exact_ value field made

theorem kept_none_iff (entries : Entries) (key : Str) (holds : Json → α → Prop) :
    Kept entries key (IsOptional holds) none ↔ Absent entries key := Iff.rfl

theorem camel_case_absent (camelCase : CamelCase entries) (name : Str) (snake : cp '_' ∈ name) :
    entries.lookup name = none := by
  rw [List.lookup_eq_none_iff]
  intro entry member
  rw [bne_iff_ne]
  intro same
  rw [same] at snake
  exact camelCase entry member snake

-- The field is looked for under a name that the result never uses.
theorem renamed_made (camelCase : CamelCase entries) (name : Str) (snake : cp '_' ∈ name) (default field : α)
    (made : optional entries name default validate = some field) : field = default := by
  rw [optional, camel_case_absent camelCase name snake] at made
  cases made
  rfl

theorem renamed_kept_iff (camelCase : CamelCase entries) (key name : Str) (holds : Json → α → Prop)
    (snake : cp '_' ∈ name) (field : Option α)
    (made : optional entries name none (orNone validate) = some field) :
    Kept entries key (IsOptional holds) field ↔ Absent entries key := by
  rw [renamed_made camelCase name snake none field made]
  exact kept_none_iff entries key holds

theorem aliased_eq (camelCase : CamelCase entries) (alias_ name : Str) (snake : cp '_' ∈ name) :
    aliased entries alias_ name = entries.lookup alias_ := by
  rw [aliased, camel_case_absent camelCase name snake, Option.or_none]

theorem optional_total (key : Str) (default : α) (accepted : Accepted entries key validate) :
    ∃ field, optional entries key default validate = some field := by
  unfold optional
  cases present : entries.lookup key with
  | none => exact ⟨default, rfl⟩
  | some value => exact accepted value present

theorem renamed_total (camelCase : CamelCase entries) (name : Str) (snake : cp '_' ∈ name) (default : α) :
    optional entries name default validate = some default := by
  rw [optional, camel_case_absent camelCase name snake]
  rfl

end

end PyIota
