import Mathlib
import PatternGuard.Proofs.Glob.Translate
import PatternGuard.Proofs.Text.Escape

namespace PatternGuard.Glob

open PatternGuard.Text PatternGuard.Regex.Reader

variable {total : Nat} {flags : Regex.FlagSet}

def Token.scan : Token → List Regex.Token
  | .anyRun => [.char '.', .char '*']
  | .segmentRun => [.char '[', .char '^', .char '/', .char ']', .char '*']
  | .segmentChar => [.char '[', .char '^', .char '/', .char ']']
  | .char c => [.ofText c]

def Token.node : Token → Regex.Node
  | .anyRun => .repeated .greedy 0 none (.ofList [.any])
  | .segmentRun => .repeated .greedy 0 none (.ofList [.notLiteral 0x2f])
  | .segmentChar => .notLiteral 0x2f
  | .char c => .literal c.toNat

theorem Token.plain_node (t : Token) : t.node.Plain := by
  cases t with
  | anyRun => exact .row 0 none .any
  | segmentRun => exact .row 0 none (.notLiteral 0x2f)
  | segmentChar => exact .char (.notLiteral 0x2f)
  | char c => exact .char (.literal c.toNat)

theorem isSpecial_eq_isGlobSpecial {c : Char} (h : c ≠ '*' ∧ c ≠ '?') :
    isSpecial c = isGlobSpecial c := by
  simp [isSpecial, h.1, h.2]

theorem tokens_render_append {t : Token} {ts : List Token} (hts : Spelled (t :: ts))
    (cs : List Char) : Regex.tokens (t.render ++ cs) = t.scan ++ Regex.tokens cs := by
  cases t with
  | anyRun => rfl
  | segmentRun => rfl
  | segmentChar => rfl
  | char c =>
    have hspecial : isSpecial c = isGlobSpecial c := isSpecial_eq_isGlobSpecial (hts c (by simp))
    rw [Token.render, Token.scan, Regex.Token.ofText, hspecial]
    split_ifs with hc
    · rfl
    · apply Regex.tokens_cons_of_ne
      intro h
      rw [h] at hc
      exact hc rfl

theorem tokens_rendered {ts : List Token} (hts : Spelled ts) :
    Regex.tokens (rendered ts) = ts.flatMap Token.scan ++ [.escape 'Z'] := by
  induction ts with
  | nil => rfl
  | cons t ts ih =>
    rw [rendered_cons, tokens_render_append hts, ih hts.tail, List.flatMap_cons, List.append_assoc]

theorem beginsItem_scan (t : Token) (rest : List Regex.Token) : BeginsItem (t.scan ++ rest) := by
  cases t with
  | anyRun => simp [BeginsItem, Token.scan]
  | segmentRun => simp [BeginsItem, Token.scan]
  | segmentChar => simp [BeginsItem, Token.scan]
  | char c => exact beginsItem_ofText c rest

theorem opening_not_mem_scan (t : Token) : .char '(' ∉ t.scan := by
  cases t with
  | anyRun => decide
  | segmentRun => decide
  | segmentChar => decide
  | char c => exact Regex.opening_not_mem_map_ofText [c]

theorem reads_scan [Regex.Interpreter] {items : List Regex.Node} {rest : List Regex.Token}
    (h : BeginsItem rest) (t : Token) :
    Reads (whole total flags items (t.scan ++ rest))
      (whole total flags (t.node :: items) rest) := by
  have hstar : BeginsItem (.char '*' :: rest) := by simp [BeginsItem]
  cases t with
  | anyRun => exact (reads_any hstar).trans (reads_star h rfl rfl)
  | segmentRun => exact (reads_notSlash hstar).trans (reads_star h rfl rfl)
  | segmentChar => exact reads_notSlash h
  | char c => exact reads_ofText h c

def nodes (ts : List Token) : List Regex.Node :=
  .anchor .lineStart :: ts.map Token.node ++ [.anchor .textEnd]

theorem plain_nodes (ts : List Token) : ∀ n ∈ nodes ts, n.Plain := by
  intro n hn
  simp only [nodes, List.cons_append, List.mem_cons, List.mem_append, List.mem_map,
    List.not_mem_nil, or_false] at hn
  rcases hn with rfl | ⟨t, -, rfl⟩ | rfl
  · exact .anchor .lineStart
  · exact t.plain_node
  · exact .anchor .textEnd

theorem reads_glob [Regex.Interpreter] (ts : List Token) :
    Reads (whole total flags [] (.char '^' :: (ts.flatMap Token.scan ++ [.escape 'Z'])))
      (whole total flags (nodes ts).reverse []) := by
  have hend : BeginsItem [.escape 'Z'] := by simp [BeginsItem]
  have hbody : BeginsItem (ts.flatMap Token.scan ++ [.escape 'Z']) := by
    cases ts with
    | nil => exact hend
    | cons t ts =>
      rw [List.flatMap_cons, List.append_assoc]
      exact beginsItem_scan t _
  have hnodes : (nodes ts).reverse =
      .anchor .textEnd :: ((ts.map Token.node).reverse ++ [.anchor .lineStart]) := by
    simp [nodes]
  rw [hnodes]
  apply (reads_lineStart hbody).trans
  refine (reads_flatMap (fun t _ rest => beginsItem_scan t rest) ?_ hend).trans (reads_textEnd .nil)
  intro t _ items rest h
  exact reads_scan h t

theorem compile_toPattern [Regex.Interpreter] (g : String) :
    Regex.Pattern.compile (toPattern g) .ignoringCase =
      .ok ⟨toPattern g, .ignoringUnicodeCase, 0, [], .ofList (nodes (tokens g.toList))⟩ := by
  have htokens : Regex.tokens (toPattern g).toList =
      .char '^' :: ((tokens g.toList).flatMap Token.scan ++ [.escape 'Z']) := by
    rw [toList_toPattern, List.singleton_append, Regex.tokens_cons_of_ne (by decide),
      tokens_rendered (spelled_tokens g.toList)]
  apply Regex.Pattern.compile_of_reads (plain_nodes _)
  · rw [htokens]
    simp [opening_not_mem_scan]
  · rw [htokens]
    simp [BeginsItem]
  · rw [htokens]
    exact reads_glob (tokens g.toList)

end PatternGuard.Glob
