import Mathlib.Data.List.Dedup
import RpcTransport.Proofs.Json.Fields
import RpcTransport.SystemConfig.Store

/-! # Categories and the fields they come from

A category has the name it was made from, so two fields of the root never become one
category, and looking a category up is looking its name up in the root. The only categories
that no field becomes are those of which another one has the name.
-/

namespace RpcTransport

open Json (Value)

namespace Category

@[simp] theorem name_ofName (name : String) : (ofName name).name = name := by
  unfold ofName
  split <;> rfl

theorem ofName_inj {first second : String} (same : ofName first = ofName second) :
    first = second := by
  rw [← name_ofName first, same, name_ofName]

def builtIn : List Category :=
  [db, pubSub, so, microservices, orchestrator, repository, cluster, ldap, containerRegistry]

/-- The name of the category belongs to one of the built-in ones. -/
def Shadowed (category : Category) : Prop :=
  ∃ own ∈ builtIn, category = other own.name

theorem ofName_name_of_builtIn : ∀ category ∈ builtIn, ofName category.name = category := by
  decide

theorem builtIn_or_eq_other (category : Category) :
    category ∈ builtIn ∨ ∃ name, category = other name := by
  cases category with
  | other name => exact .inr ⟨name, rfl⟩
  | _ => exact .inl (by decide)

theorem other_not_mem_builtIn (name : String) : other name ∉ builtIn := by
  simp [builtIn]

theorem ofName_mem_builtIn_or_eq_other (name : String) :
    ofName name ∈ builtIn ∨ ofName name = other name := by
  obtain own | ⟨last, made⟩ := builtIn_or_eq_other (ofName name)
  · exact .inl own
  · have same := congrArg Category.name made
    rw [name_ofName] at same
    rw [made, same]
    exact .inr rfl

theorem ofName_name_iff {category : Category} :
    ofName category.name = category ↔ ¬ category.Shadowed := by
  constructor
  · rintro back ⟨own, among, rfl⟩
    rw [Category.name, ofName_name_of_builtIn own among] at back
    exact other_not_mem_builtIn own.name (back ▸ among)
  · intro unshadowed
    obtain own | ⟨name, rfl⟩ := builtIn_or_eq_other category
    · exact ofName_name_of_builtIn category own
    · obtain own | made := ofName_mem_builtIn_or_eq_other name
      · exact absurd ⟨ofName name, own, congrArg other (name_ofName name).symm⟩ unshadowed
      · exact made

end Category

namespace SystemConfig

theorem lookup_sections (fields : List (String × Value)) (name : String) :
    (fields.map fun field => (Category.ofName field.1, field.2)).lookup (.ofName name) =
      fields.lookup name := by
  induction fields with
  | nil => rfl
  | cons field rest ih =>
      rw [List.map_cons, List.lookup_cons, List.lookup_cons, ih]
      by_cases same : name = field.1
      · subst same
        simp
      · have apart : Category.ofName name ≠ Category.ofName field.1 :=
          fun equal => same (Category.ofName_inj equal)
        rw [beq_eq_false_iff_ne.mpr same, beq_eq_false_iff_ne.mpr apart]

theorem get?_ofName {root : Value} {config : SystemConfig} (read : ofValue root = .ok config)
    (name : String) : config.get? (.ofName name) = root.get? name := by
  rw [ofValue] at read
  rw [Value.get?]
  cases object : root.fields? with
  | none =>
      rw [object] at read
      cases read
  | some fields =>
      rw [object] at read
      cases read
      exact lookup_sections fields name

/-- What becomes of the fields of an object. Of the values written under a name the last one
    counts. -/
structure KeepsFields (members : List (String × Value)) (config : SystemConfig) : Prop where
  /-- No two fields become one category. -/
  distinct : (config.sections.map (·.1)).Nodup
  size : config.sections.length = (members.map (·.1)).dedup.length
  named (name : String) : config.get? (.ofName name) = members.reverse.lookup name
  unshadowed (category : Category) : ¬ category.Shadowed →
    config.get? category = members.reverse.lookup category.name
  /-- Nothing is found under a category that has the name of another. -/
  shadowed (category : Category) : category.Shadowed → config.get? category = none

theorem length_sortFields (members : List (String × Value)) :
    (Json.sortFields members).length = (members.map (·.1)).dedup.length := by
  have same : ((Json.sortFields members).map (·.1)).Perm (members.map (·.1)).dedup := by
    apply (List.perm_ext_iff_of_nodup (Json.nodup_names_sortFields members)
      (List.nodup_dedup _)).mpr
    intro name
    rw [Json.mem_names_sortFields, List.mem_dedup]
  rw [← same.length_eq, List.length_map]

section Objects

variable {members : List (String × Value)} {config : SystemConfig}

theorem categories_of_object (read : ofValue (.object members) = .ok config) :
    config.sections.map (·.1) = ((Json.sortFields members).map (·.1)).map Category.ofName := by
  cases read
  rw [List.map_map, List.map_map]
  rfl

theorem exists_name_of_get? (read : ofValue (.object members) = .ok config)
    {category : Category} {value : Value} (found : config.get? category = some value) :
    ∃ name, Category.ofName name = category := by
  obtain ⟨before, behind, split, -⟩ := List.lookup_eq_some_iff.mp found
  have among : category ∈ config.sections.map (·.1) := by simp [split]
  rw [categories_of_object read] at among
  obtain ⟨name, -, made⟩ := List.mem_map.mp among
  exact ⟨name, made⟩

theorem keepsFields_of_object (read : ofValue (.object members) = .ok config) :
    KeepsFields members config := by
  constructor
  case distinct =>
    rw [categories_of_object read]
    apply List.Nodup.map _ (Json.nodup_names_sortFields members)
    intro first second same
    exact Category.ofName_inj same
  case size =>
    have sizes := congrArg List.length (categories_of_object read)
    simp only [List.length_map] at sizes
    rw [sizes, length_sortFields]
  case named =>
    intro name
    rw [get?_ofName read, Value.get?_object]
  case unshadowed =>
    intro category unshadowed
    have back := Category.ofName_name_iff.mpr unshadowed
    rw [← Value.get?_object, ← get?_ofName read, back]
  case shadowed =>
    intro category shadowed
    apply Option.eq_none_iff_forall_ne_some.mpr
    intro value found
    obtain ⟨name, rfl⟩ := exists_name_of_get? read found
    have back : Category.ofName (Category.ofName name).name = Category.ofName name := by
      rw [Category.name_ofName]
    exact Category.ofName_name_iff.mp back shadowed

end Objects

/-- Every field of an object is kept, under the category of its name. Names and categories go
    together one to one, apart from the categories that have the name of another. -/
theorem ofValue_keepsFields (members : List (String × Value)) :
    (∀ name : String, (Category.ofName name).name = name) ∧
      (∀ category : Category, Category.ofName category.name = category ↔
        ¬ category.Shadowed) ∧
      ∃ config, ofValue (.object members) = .ok config ∧ KeepsFields members config := by
  refine ⟨Category.name_ofName, ?_, _, rfl, keepsFields_of_object rfl⟩
  intro category
  exact Category.ofName_name_iff

end SystemConfig

end RpcTransport
