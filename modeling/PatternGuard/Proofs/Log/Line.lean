import Mathlib
import PatternGuard.Proofs.Json.RoundTrip
import PatternGuard.Proofs.Log.Fields

namespace PatternGuard

namespace Value

inductive Floatless : Value → Prop
  | scalar {s : Scalar} : (∀ x, s ≠ .float x) → Floatless (.scalar s)
  | list {items : List Value} : (∀ v ∈ items, Floatless v) → Floatless (.list items)
  | map {es : Entries} : (∀ e ∈ es, Floatless e.2) → Floatless (.map es)

/-- What is read back for a value: the value where JSON has it, and else its `str`. -/
inductive ReadsAs : Value → Json → Prop
  | null : ReadsAs .null .null
  | bool (b : Bool) : ReadsAs (.bool b) (.bool b)
  | int (n : Int) : ReadsAs (.int n) (.int n)
  | text (s : String) : ReadsAs (.text s) (.text s)
  | bytes (b : List UInt8) : ReadsAs (.bytes b) (.text (Text.quotedBytes b))
  | decimal (d : Number.Decimal) : ReadsAs (.decimal d) (.text (String.ofList d.text))
  | fault (message : String) : ReadsAs (.fault message) (.text message)
  | list {items : List Value} {js : List Json} :
      List.Forall₂ ReadsAs items js → ReadsAs (.list items) (.array js)
  | map {es : Entries} {ms : List (String × Json)} :
      Keyed.keys ms = Keyed.keys es → List.Forall₂ (fun e m => ReadsAs e.2 m.2) es ms →
      ReadsAs (.map es) (.object ms)

variable {v : Value} {es : Entries}

@[simp] theorem floatless_scalar_iff {s : Scalar} :
    (Value.scalar s).Floatless ↔ ∀ x, s ≠ .float x := by
  constructor
  · intro h
    cases h with
    | scalar hs => exact hs
  · exact .scalar

@[simp] theorem floatless_list_iff {items : List Value} :
    (Value.list items).Floatless ↔ ∀ v ∈ items, v.Floatless := by
  constructor
  · intro h
    cases h with
    | list hitems => exact hitems
  · exact .list

@[simp] theorem floatless_map_iff : (Value.map es).Floatless ↔ ∀ e ∈ es, e.2.Floatless := by
  constructor
  · intro h
    cases h with
    | map hes => exact hes
  · exact .map

theorem floatless_text (s : String) : (Value.text s).Floatless := by
  simp

theorem Floatless.toJson (h : v.Floatless) : v.toJson.Floatless := by
  induction h with
  | @scalar s hs =>
    cases s with
    | null => exact .null
    | bool b => exact .bool b
    | int n => exact .int n
    | float x => exact absurd rfl (hs x)
    | _ => exact .text _
  | list _ ih =>
    rw [toJson_list]
    apply Json.Floatless.array
    intro j hj
    obtain ⟨v, hv, rfl⟩ := List.mem_map.1 hj
    exact ih v hv
  | map _ ih =>
    rw [toJson_map]
    apply Json.Floatless.object
    intro m hm
    obtain ⟨e, he, rfl⟩ := List.mem_map.1 hm
    exact ih e he

theorem Floatless.readsAs (h : v.Floatless) : v.ReadsAs v.toJson := by
  induction h with
  | @scalar s hs =>
    cases s with
    | null => exact .null
    | bool b => exact .bool b
    | int n => exact .int n
    | float x => exact absurd rfl (hs x)
    | text s => exact .text s
    | bytes b => exact .bytes b
    | decimal d => exact .decimal d
    | fault message => exact .fault message
  | list _ ih =>
    rw [toJson_list]
    apply ReadsAs.list
    rw [List.forall₂_map_right_iff, List.forall₂_same]
    exact ih
  | map _ ih =>
    rw [toJson_map]
    apply ReadsAs.map (Keyed.keys_map_snd _ _)
    rw [List.forall₂_map_right_iff, List.forall₂_same]
    exact ih

theorem Floatless.redactValue (h : v.Floatless) : (Log.redactValue v).Floatless := by
  induction h with
  | scalar hs => exact .scalar hs
  | list hitems _ => exact .list hitems
  | map _ ih =>
    rw [Log.redactValue, Log.redact_eq]
    apply Floatless.map
    intro e he
    obtain ⟨f, hf, rfl⟩ := List.mem_map.1 he
    dsimp only
    split_ifs with hk
    · exact floatless_text _
    · exact ih f hf

end Value

namespace Log

structure Entry where
  now : Int
  level : String
  message : Value
  extra : Option Entries

def Entry.handed (e : Entry) : Value := e.extra.elim .null .map

def Entry.additions (e : Entry) : Entries := e.extra.getD []

structure Entry.Plain (e : Entry) : Prop where
  message : e.message.Floatless
  additions : (Value.map e.additions).Floatless
  distinct : (Keyed.keys e.additions).Nodup

/-- A line is printable ASCII and reads back as the entry: its own fields first, then the extras in
their order, each under the last value given to it. -/
structure Says (l : String) (component : Value) (e : Entry) : Prop where
  printable : ∀ c ∈ l.toList, 0x20 ≤ c.toNat ∧ c.toNat ≤ 0x7e
  reads : ∃ ms, Json.read? l = some (.object ms) ∧
    Keyed.keys ms = ["ts", "lvl", "msg", "component"] ++
      (Keyed.keys e.additions).filter (· ∉ ["ts", "lvl", "msg", "component"]) ∧
    ∀ k, Option.Rel Value.ReadsAs
      ((Keyed.get? k (redact e.additions)).or (Keyed.get? k [("ts", .text (timestamp e.now)),
        ("lvl", .text (Unicode.uppercase e.level)), ("msg", e.message), ("component", component)]))
      (Keyed.get? k ms)

variable {component : Value} {e : Entry}

theorem write_handed (component : Value) (e : Entry) :
    write component e.now (.text e.level) e.message e.handed =
      .ok (line component e.now e.level e.message e.additions ++ "\n") := by
  obtain ⟨now, level, message, extra⟩ := e
  cases extra <;> rfl

theorem Entry.Plain.floatless_of_mem_payload (h : e.Plain) (hcomponent : component.Floatless)
    {m : String × Value} (hm : m ∈ payload component e.now e.level e.message e.additions) :
    m.2.Floatless := by
  rw [payload_eq] at hm
  cases Keyed.mem_of_mem_update hm with
  | inl hm =>
    simp only [filled, List.mem_cons, List.not_mem_nil, or_false] at hm
    rcases hm with rfl | rfl | rfl | rfl
    · exact Value.floatless_text _
    · exact Value.floatless_text _
    · exact h.message
    · exact hcomponent
  | inr hm =>
    have hadditions := h.additions.redactValue
    rw [redactValue, Value.floatless_map_iff] at hadditions
    exact hadditions m hm

theorem Entry.Plain.says_line (h : e.Plain) (hcomponent : component.Floatless) :
    Says (line component e.now e.level e.message e.additions) component e := by
  have hpayload := fun m hm => h.floatless_of_mem_payload hcomponent (m := m) hm
  have hfloatless := (Value.Floatless.map hpayload).toJson
  constructor
  · intro c hc
    rw [line, Json.line, String.toList_ofList] at hc
    exact hfloatless.forall_isPrintable c hc
  · refine ⟨_, hfloatless.read?_line.trans (congrArg some (Value.toJson_map _)), ?_, ?_⟩
    · rw [Keyed.keys_map_snd, keys_payload h.distinct]
    · intro k
      have hget : Keyed.get? k (payload component e.now e.level e.message e.additions) = _ :=
        get?_payload h.distinct k
      rw [filled] at hget
      rw [Keyed.get?_map_snd, ← hget]
      cases hv : Keyed.get? k (payload component e.now e.level e.message e.additions) with
      | none => exact .none
      | some v => exact .some (hpayload (k, v) (Keyed.mem_of_get? hv)).readsAs

theorem Says.newline_not_mem {l : String} (h : Says l component e) : '\n' ∉ l.toList := by
  intro hmem
  exact absurd (h.printable '\n' hmem).1 (by decide)

theorem splitOn_join_lines {ls : List String} (h : ∀ l ∈ ls, '\n' ∉ l.toList) :
    (String.join (ls.map (· ++ "\n"))).toList.splitOn '\n' = ls.map String.toList ++ [[]] := by
  rw [String.toList_join]
  induction ls with
  | nil => rfl
  | cons l ls ih =>
    obtain ⟨hl, hls⟩ := List.forall_mem_cons.1 h
    have hline : (l ++ "\n").toList = l.toList ++ ['\n'] := String.toList_append
    rw [List.map_cons, List.flatMap_cons, hline, List.append_assoc, List.singleton_append,
      List.splitOn_append_cons_self_of_not_mem hl, ih hls, List.map_cons, List.cons_append]

/-- A log splits at its line ends into one line for each entry, and the line reads back as the
entry. -/
theorem log_falls_into_entries (component : Value) (hcomponent : component.Floatless)
    (es : List Entry) (hes : ∀ e ∈ es, e.Plain) :
    ∃ ls : List String,
      (es.map fun e => write component e.now (.text e.level) e.message e.handed) =
        ls.map (fun l => .ok (l ++ "\n")) ∧
      List.Forall₂ (fun e l => Says l component e) es ls ∧
      (String.join (ls.map (· ++ "\n"))).toList.splitOn '\n' = ls.map String.toList ++ [[]] := by
  have hline : ∀ e ∈ es, Says (line component e.now e.level e.message e.additions) component e :=
    fun e he => (hes e he).says_line hcomponent
  refine ⟨es.map fun e => line component e.now e.level e.message e.additions, ?_, ?_, ?_⟩
  · simp only [write_handed, List.map_map, Function.comp_def]
  · rw [List.forall₂_map_right_iff, List.forall₂_same]
    exact hline
  · apply splitOn_join_lines
    intro l hl
    obtain ⟨e, he, rfl⟩ := List.mem_map.1 hl
    exact (hline e he).newline_not_mem

theorem log_falls_into_entries_of_two :
    let component := Value.text "app"
    let first : Entry := ⟨0, "info", .text "a\n\"\t😀", some [("lvl", .bytes [10, 255]),
      ("cause", .map [("text", .null), ("codes", .list [.int (-3), .fault "é"])])]⟩
    let second : Entry := ⟨1, "warn", .text "b", none⟩
    component.Floatless ∧ (∀ e ∈ [first, second], e.Plain) ∧
    ∃ l m, write component 0 (.text "info") first.message first.handed = .ok (l ++ "\n") ∧
      write component 1 (.text "warn") (.text "b") .null = .ok (m ++ "\n") ∧
      Says l component first ∧ Says m component second ∧
      (l ++ "\n" ++ (m ++ "\n")).toList.splitOn '\n' = [l.toList, m.toList, []] := by
  intro component first second
  have hcomponent : component.Floatless := by
    simp [component]
  have hplain : ∀ e ∈ [first, second], e.Plain := by
    simp only [List.forall_mem_cons, List.not_mem_nil, false_imp_iff, implies_true, and_true]
    constructor
    · constructor <;> simp [first, Entry.additions]
    · constructor <;> simp [second, Entry.additions]
  obtain ⟨ls, hwritten, hread, hlines⟩ :=
    log_falls_into_entries component hcomponent [first, second] hplain
  cases hread with
  | @cons _ l _ _ hfirst hrest =>
    cases hrest with
    | @cons _ m _ _ hsecond hnone =>
      cases hnone
      obtain ⟨hl, hm⟩ := List.cons_eq_cons.1 hwritten
      refine ⟨hcomponent, hplain, l, m, hl, (List.cons_eq_cons.1 hm).1, hfirst, hsecond, ?_⟩
      simpa using hlines

end Log

end PatternGuard
