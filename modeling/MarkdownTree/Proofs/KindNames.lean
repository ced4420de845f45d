import Mathlib.Data.List.Nodup
import MarkdownTree.Kind.Decode

/-! The names of kinds. The tags, the table that looks them up, the list of all kinds and the names in JSON are four
descriptions of one bijection: a kind has just one name, and no other text or value stands for it. -/

namespace MarkdownTree

namespace Kind

@[simp] theorem jsonName_eq_tag (kind : Kind) : kind.jsonName = kind.tag := by
  cases kind <;> decide +kernel

theorem map_jsonName : all.map jsonName = all.map tag :=
  List.map_congr_left fun kind _ => kind.jsonName_eq_tag

theorem ofTag?_eq_some_iff {tag : String} {kind : Kind} : ofTag? tag = some kind ↔ tag = kind.tag := by
  constructor
  · intro found
    exact (tag_of_ofTag? found).symm
  · rintro rfl
    exact ofTag?_tag kind

theorem ofTag?_eq_none_iff {tag : String} : ofTag? tag = none ↔ ∀ kind : Kind, tag ≠ kind.tag := by
  simp only [Option.eq_none_iff_forall_ne_some, ne_eq, ofTag?_eq_some_iff]

theorem tag_injective : Function.Injective tag := by
  intro kind other same
  have found := ofTag?_tag kind
  rw [same, ofTag?_tag] at found
  exact (Option.some.inj found).symm

theorem name_ne_tag (kind other : Kind) : kind.name ≠ other.tag := by
  intro same
  have capital : kind.name.toList.head?.any Char.isUpper = true := by cases kind <;> decide +kernel
  have small : other.tag.toList.head?.any Char.isUpper = false := by cases other <;> decide +kernel
  rw [same, small] at capital
  cases capital

theorem count_all (kind : Kind) : all.count kind = 1 := by
  have once : all.Nodup := by decide
  exact List.count_eq_one_of_mem once kind.mem_all

theorem lowered_tag_injective : Function.Injective fun kind : Kind => kind.tag.toLower := by
  have distinct : (all.map fun kind => kind.tag.toLower).Nodup := by decide +kernel
  exact fun kind other same => List.inj_on_of_nodup_map distinct kind.mem_all other.mem_all same

end Kind

section Names
variable {constants : List α} {nameOf : α → String}

theorem decodeName_ok_iff (complete : ∀ constant, constant ∈ constants) (distinct : Function.Injective nameOf)
    {name : String} {constant : α} : decodeName constants nameOf name = .ok constant ↔ name = nameOf constant := by
  unfold decodeName
  split
  next other found =>
    obtain rfl : nameOf other = name := by simpa using List.find?_some found
    simp only [Except.ok.injEq, distinct.eq_iff]
  next missing =>
    simp only [List.find?_eq_none, decide_eq_true_eq] at missing
    constructor
    · intro impossible
      cases impossible
    · rintro rfl
      exact absurd rfl (missing constant (complete constant))

theorem decodeName_error {name : String} (unknown : ∀ constant, name ≠ nameOf constant) :
    decodeName constants nameOf name = .error (.unknownName name (constants.map nameOf)) := by
  have missing : constants.find? (nameOf · = name) = none := by
    simpa using fun constant _ => (unknown constant).symm
  rw [decodeName, missing]

theorem decodeConstant_single_ok_iff {name : String} {payload : Json} {constant : α} :
    decodeConstant constants nameOf (.object [(name, payload)]) = .ok constant ↔
      decodeName constants nameOf name = .ok constant ∧ payload = .null := by
  rw [decodeConstant]
  cases decodeName constants nameOf name with
  | error failure => simp [bind, Except.bind]
  | ok known => cases payload <;> simp [bind, Except.bind, pure, Except.pure, throw, throwThe, MonadExceptOf.throw]

theorem decodeConstant_ok_iff {value : Json} {constant : α} :
    decodeConstant constants nameOf value = .ok constant ↔
      ∃ name, decodeName constants nameOf name = .ok constant ∧
        (value = .string name ∨ value = .object [(name, .null)]) := by
  cases value with
  | string text => simp [decodeConstant]
  | object fields =>
    match fields with
    | [] => simp [decodeConstant]
    | [(name, payload)] =>
      rw [decodeConstant_single_ok_iff]
      simp
    | _ :: _ :: _ => simp [decodeConstant]
  | _ => simp [decodeConstant, throw, throwThe, MonadExceptOf.throw]

end Names

namespace Kind

theorem decodeName_ok_iff_tag {name : String} {kind : Kind} :
    decodeName all jsonName name = .ok kind ↔ name = kind.tag := by
  have distinct : Function.Injective jsonName := by
    intro kind other same
    rw [jsonName_eq_tag, jsonName_eq_tag] at same
    exact tag_injective same
  rw [decodeName_ok_iff mem_all distinct, jsonName_eq_tag]

theorem decode_ok_iff {value : Json} {kind : Kind} :
    decode value = .ok kind ↔ value = .string kind.tag ∨ value = .object [(kind.tag, .null)] := by
  simp only [decode, decodeConstant_ok_iff, decodeName_ok_iff_tag, exists_eq_left]

theorem decodeName_unknown {name : String} (unknown : ∀ kind : Kind, name ≠ kind.tag) :
    decodeName all jsonName name = .error (.unknownName name (all.map tag)) := by
  rw [decodeName_error (by simpa using unknown), map_jsonName]

/-- What is neither a name nor an object with just a name is refused for the first of these reasons that applies: for
its type, for not having one key, for the unknown key, or for what the known key holds. -/
theorem decode_unknown :
    (∀ name, (∀ kind : Kind, name ≠ kind.tag) →
      decode (.string name) = .error (.unknownName name (all.map tag)) ∧
      ∀ payload, decode (.object [(name, payload)]) = .error (.unknownName name (all.map tag))) ∧
    (∀ (kind : Kind) payload, payload ≠ .null → decode (.object [(kind.tag, payload)]) = .error (.notNull payload)) ∧
    (∀ fields : Json.Fields, fields.length ≠ 1 → decode (.object fields) = .error .notSingleKey) ∧
    ∀ value, (∀ text, value ≠ .string text) → (∀ fields, value ≠ .object fields) →
      decode value = .error (.notName value) := by
  refine ⟨?_, ?_, ?_, ?_⟩
  · intro name unknown
    have missing := decodeName_unknown unknown
    refine ⟨missing, fun payload => ?_⟩
    rw [decode, decodeConstant, missing]
    rfl
  · intro kind payload present
    have found : decodeName all jsonName kind.tag = .ok kind := decodeName_ok_iff_tag.2 rfl
    rw [decode, decodeConstant, found]
    cases payload with
    | null => exact absurd rfl present
    | _ => rfl
  · intro fields several
    match fields with
    | [] => rfl
    | [_] => exact absurd rfl several
    | _ :: _ :: _ => rfl
  · intro value noText noObject
    cases value with
    | string text => exact absurd rfl (noText text)
    | object fields => exact absurd rfl (noObject fields)
    | _ => rfl

/-- A kind and its tag tell each other. The table finds the kind of every tag and of nothing else, the list has every
kind once, and the tag is what is shown and written for a kind. In JSON, only the tag and the object that holds just
the tag with null are read as the kind, so that reading undoes writing and agrees with the table on all strings. All
else is refused, an unknown key even before its payload is looked at. Among the strings that are refused are the names
of the constants, the empty string, and tags in another case. -/
theorem forms_describe_one_bijection :
    (∀ (text : String) (kind : Kind), ofTag? text = some kind ↔ text = kind.tag) ∧
    (∀ kind : Kind, kind.toJson = .string kind.tag ∧ toString kind = kind.tag ∧ all.count kind = 1) ∧
    (∀ value kind, decode value = .ok kind ↔ value = .string kind.tag ∨ value = .object [(kind.tag, .null)]) ∧
    (∀ text kind, decode (.string text) = .ok kind ↔ ofTag? text = some kind) ∧
    (∀ kind : Kind, decode kind.toJson = .ok kind) ∧
    (∀ text, (∀ kind : Kind, text ≠ kind.tag) → ofTag? text = none ∧
      decode (.string text) = .error (.unknownName text (all.map tag)) ∧
      ∀ payload, decode (.object [(text, payload)]) = .error (.unknownName text (all.map tag))) ∧
    (∀ (kind : Kind) payload, payload ≠ .null → decode (.object [(kind.tag, payload)]) = .error (.notNull payload)) ∧
    (∀ fields : Json.Fields, fields.length ≠ 1 → decode (.object fields) = .error .notSingleKey) ∧
    (∀ value, (∀ text, value ≠ .string text) → (∀ fields, value ≠ .object fields) →
      decode value = .error (.notName value)) ∧
    (∀ kind other : Kind, kind.name ≠ other.tag) ∧ (∀ kind : Kind, "" ≠ kind.tag) ∧
    ∀ (text : String) (kind : Kind), text ≠ kind.tag → text.toLower = kind.tag.toLower →
      ∀ other : Kind, text ≠ other.tag := by
  obtain ⟨unknown, notNull, notSingle, notName⟩ := decode_unknown
  refine ⟨fun _ _ => ofTag?_eq_some_iff, ?_, fun _ _ => decode_ok_iff, ?_, ?_, ?_, notNull, notSingle, notName,
    name_ne_tag, ?_, ?_⟩
  · intro kind
    exact ⟨congrArg Json.string kind.jsonName_eq_tag, rfl, kind.count_all⟩
  · intro text kind
    rw [decode_ok_iff, ofTag?_eq_some_iff]
    simp
  · intro kind
    exact decode_ok_iff.2 (.inl (congrArg Json.string kind.jsonName_eq_tag))
  · intro text foreign
    exact ⟨ofTag?_eq_none_iff.2 foreign, unknown text foreign⟩
  · exact ofTag?_eq_none_iff.1 rfl
  · rintro text kind different lowered other rfl
    exact different (congrArg tag (lowered_tag_injective lowered))

/-- A capital makes the tag of lists a name that nothing has, for which an object is refused before what it holds is. -/
theorem forms_describe_one_bijection_list :
    (∀ kind : Kind, "List" ≠ kind.tag) ∧ ofTag? "List" = none ∧
      decode (.object [("List", .bool true)]) = .error (.unknownName "List" (all.map tag)) ∧
      decode (.object [("list", .bool true)]) = .error (.notNull (.bool true)) ∧
      decode (.object [("list", .null)]) = .ok .list := by
  obtain ⟨-, -, decodes, -, -, unknown, notNull, -, -, -, -, lowered⟩ := forms_describe_one_bijection
  have folded : "List".toLower = Kind.list.tag.toLower := by
    apply String.toList_inj.1
    change ("List".map Char.toLower).toList = (Kind.list.tag.map Char.toLower).toList
    rw [String.toList_map, String.toList_map]
    decide
  have foreign : ∀ kind : Kind, "List" ≠ kind.tag := lowered "List" .list (by decide) folded
  obtain ⟨missing, -, refused⟩ := unknown "List" foreign
  exact ⟨foreign, missing, refused (.bool true), notNull .list (.bool true) (by simp), (decodes _ .list).2 (.inr rfl)⟩

end Kind
end MarkdownTree
