import Mathlib.Logic.Function.Basic
import HandleBridge.Proofs.Binding.Wrappers
import HandleBridge.Proofs.Config.Fields

/-
  Host and guest call the exports by the same names.

  A host puts its names together from a type and a field (`ExportNames.forField`), a guest gets
  them from the functions of a block (`exportName`). Behind every name that a host looks up, but
  that of the memory, is the wish for one function of the block (`Key.method?`).

  Proved:
  * `get_forField`: the names of the host are put together as a guest does it.
  * `forField_get_injective`, `forField_injective2`: no two names are alike, and they tell the type
    and the field that they are for.
  * `host_and_guest_agree`: a name leads to the function that is wanted, and to no other one.
-/

namespace HandleBridge

namespace ExportNames

/-- The function of a guest that a host wants under a name. The memory is no function. -/
def Key.method? (field : String) : Key → Option String
  | .memory => none
  | .create => some "create"
  | .ptr => some ("get_" ++ field)
  | .len => some ("get_" ++ field ++ "_len")
  | .reserve => some ("set_" ++ field)
  | .destroy => some "destroy"

variable {type field method : String} {key : Key}

theorem Key.method?_eq_none_iff : key.method? field = none ↔ key = .memory := by
  cases key <;> simp [method?]

/-- The names differ in their first letters, and two of them in their lengths. -/
theorem Key.method?_injective (field : String) : Function.Injective (Key.method? field) := by
  intro key key' h
  cases key <;> cases key' <;>
    first | rfl | exact absurd h (by simp [method?, ← String.toList_inj])

theorem get_forField (h : key.method? field = some method) :
    (forField type field).get key = type ++ "_" ++ method := by
  cases key with
  | memory => cases h
  | _ =>
    cases h
    simp [forField, get, ← String.toList_inj]

theorem get_forField_ne_memory (h : key ≠ .memory) : (forField type field).get key ≠ "memory" := by
  obtain ⟨method, hm⟩ := Option.ne_none_iff_exists'.1 (mt Key.method?_eq_none_iff.1 h)
  rw [get_forField hm]
  intro he
  have hu : '_' ∈ "memory".toList := by
    rw [← he]
    simp
  simp at hu

/-- The six names for a type and a field are different. -/
theorem forField_get_injective (type field : String) :
    Function.Injective (forField type field).get := by
  intro key key' h
  -- two functions are told apart by their own names, the memory by having no underscore
  by_cases hk : key = .memory
  · by_cases hk' : key' = .memory
    · rw [hk, hk']
    · rw [hk] at h
      exact absurd h.symm (get_forField_ne_memory hk')
  · by_cases hk' : key' = .memory
    · rw [hk'] at h
      exact absurd h (get_forField_ne_memory hk)
    · obtain ⟨method, hm⟩ := Option.ne_none_iff_exists'.1 (mt Key.method?_eq_none_iff.1 hk)
      obtain ⟨method', hm'⟩ := Option.ne_none_iff_exists'.1 (mt Key.method?_eq_none_iff.1 hk')
      rw [get_forField hm, get_forField hm', String.append_right_inj] at h
      exact Key.method?_injective field (by rw [hm, hm', h])

theorem forField_injective2 : Function.Injective2 forField := by
  intro type type' field field' h
  have ht : type ++ "_create" = type' ++ "_create" := congrArg create h
  have hf : type ++ "_get_" ++ field = type' ++ "_get_" ++ field' := congrArg ptr h
  rw [String.append_left_inj] at ht
  rw [ht, String.append_right_inj] at hf
  exact ⟨ht, hf⟩

end ExportNames

namespace Binding

open HandleBridge.Source

/-- None of the functions that a host may want has the mark of a raw identifier. -/
theorem unmarked_of_method? {key : ExportNames.Key} {field method : String}
    (h : key.method? field = some method) : unmarked method = method := by
  have hr : method.toList.head? ≠ some 'r' := by
    cases key with
    | memory => cases h
    | _ =>
      cases h
      simp
  unfold unmarked
  split
  · rename_i rest he
    rw [he] at hr
    exact absurd rfl hr
  · rfl

theorem exportName_inherent (type method : String) :
    exportName type none method = Text.lowercase type ++ "_" ++ unmarked method := by
  simp [exportName]

variable {b : ImplBlock} {plan : Plan} {s : PathSegment}

theorem name_of_mem_exports (h : decideBlock b = .exported plan) (ht : b.trait? = none)
    (hs : EndsIn b.self s) {e : Export} (he : e ∈ plan.exports) :
    e.name = Text.lowercase s.name ++ "_" ++ unmarked e.method := by
  obtain ⟨-, s', hs', -, rfl⟩ := of_exported h
  obtain ⟨m, -, rfl⟩ := List.mem_map.1 he
  rw [← EndsIn.unique hs hs', ← exportName_inherent]
  show exportName _ (b.trait?.map TraitPath.name) _ = _
  rw [ht]
  rfl

theorem exists_export_of_has (h : decideBlock b = .exported plan) {name : String}
    (hn : Has b name) : ∃ e ∈ plan.exports, e.method = name := by
  obtain ⟨-, s, -, -, rfl⟩ := of_exported h
  obtain ⟨m, hm, rfl⟩ := hn
  exact ⟨_, List.mem_map_of_mem (mem_considered.2 hm), rfl⟩

/-- The names that a host puts together from the small form of a type and a field are different,
tell the two apart, and are those of the functions that it wants, if an accepted block for the type
has them. -/
theorem host_and_guest_agree :
    (∀ (b : ImplBlock) (plan : Plan) (s : PathSegment) (field : String),
      decideBlock b = .exported plan → b.trait? = none → EndsIn b.self s →
      let names := ExportNames.forField (Text.lowercase s.name) field
      ∀ (key : ExportNames.Key) (method : String), key.method? field = some method →
        (Has b method → ∃ e ∈ plan.exports, e.method = method ∧ e.name = names.get key) ∧
          ∀ e ∈ plan.exports, e.name = names.get key ↔ unmarked e.method = method) ∧
      (∀ type field, Function.Injective (ExportNames.forField type field).get) ∧
      Function.Injective2 ExportNames.forField := by
  refine ⟨?_, ExportNames.forField_get_injective, ExportNames.forField_injective2⟩
  intro b plan s field h ht hs names key method hm
  have hk : names.get key = Text.lowercase s.name ++ "_" ++ method := ExportNames.get_forField hm
  have hiff : ∀ e ∈ plan.exports, e.name = names.get key ↔ unmarked e.method = method := by
    intro e he
    rw [name_of_mem_exports h ht hs he, hk, String.append_right_inj]
  refine ⟨fun hb => ?_, hiff⟩
  obtain ⟨e, he, hem⟩ := exists_export_of_has h hb
  exact ⟨e, he, hem, (hiff e he).2 (by rw [hem, unmarked_of_method? hm])⟩

/-- A field may be called like a part of the names. -/
theorem field_named_len_agrees :
    ∃ b plan s, decideBlock b = .exported plan ∧ b.trait? = none ∧ EndsIn b.self s ∧
      ∀ (key : ExportNames.Key) (method : String), key.method? "len" = some method →
        ∃ e ∈ plan.exports, e.method = method ∧
          e.name = (ExportNames.forField (Text.lowercase s.name) "len").get key := by
  let named : String → TypeExpr := fun w => ⟨[.word w .nowhere], .path false [] ⟨w, none⟩⟩
  let method : String → List Param → String → Method := fun name params output =>
    ⟨[], .everyone, ⟨.nowhere, name, none, none, none, params, some ⟨named output, .nowhere⟩⟩⟩
  let self : Receiver → Param := fun kind => .receiver kind .nowhere .nowhere
  let functions : List Method :=
    [method "create" [] "Note", method "get_len" [self .borrowed] "u32",
      method "get_len_len" [self .borrowed] "u32",
      method "set_len" [self .borrowed, .named "len" (named "u32")] "u32",
      method "destroy" [self .owned] "bool"]
  let b : ImplBlock := ⟨none, none, named "Note", functions.map .method⟩
  have hk : (match decideBlock b with
      | .exported _ => true
      | _ => false) = true := by decide +kernel
  have hc : ∀ m ∈ functions, Considers b m := by
    intro m hm
    refine ⟨List.mem_map_of_mem hm, .inr ?_⟩
    simp only [functions, List.mem_cons, List.not_mem_nil, or_false] at hm
    rcases hm with rfl | rfl | rfl | rfl | rfl <;> rfl
  have hb : ∀ (key : ExportNames.Key) (name : String), key.method? "len" = some name →
      Has b name := by
    intro key name hname
    have hn : name ∈ functions.map (·.signature.name) := by
      cases key with
      | memory => cases hname
      | _ =>
        cases hname
        decide
    obtain ⟨m, hm, rfl⟩ := List.mem_map.1 hn
    exact ⟨m, hc m hm, rfl⟩
  split at hk
  · rename_i plan hp
    refine ⟨b, plan, ⟨"Note", none⟩, hp, rfl, ⟨_, _, rfl⟩, fun key name hm => ?_⟩
    exact (host_and_guest_agree.1 b plan _ "len" hp rfl ⟨_, _, rfl⟩ key name hm).1 (hb key name hm)
  · cases hk

end Binding

end HandleBridge
