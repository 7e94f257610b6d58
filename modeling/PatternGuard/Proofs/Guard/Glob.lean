import Mathlib
import PatternGuard.Proofs.Glob.Clear
import PatternGuard.Proofs.Glob.Match
import PatternGuard.Proofs.Guard.Create

namespace PatternGuard.Guard

open PatternGuard.Regex PatternGuard.Text

-- Closed statements are about the standard interpreter, all others bind one of their own.
attribute [local instance] Interpreter.standard

theorem compile_escape_finds [Interpreter] (t : String) :
    ∃ p, Pattern.compile (escape t) .ignoringCase = .ok p ∧
      ∀ s : String, ∃ found, p.search s = .ok found ∧
        (found = true ↔
          ∃ a w b, s.toList = a ++ w ++ b ∧ List.Forall₂ SameLetter t.toList w) := by
  refine ⟨_, Pattern.compile_escape t, fun s => ?_⟩
  rw [← Node.spans_anywhere_iff (s := s.toList.toArray) fun i j => Node.literals_spans_iff]
  exact Pattern.search_caseless Node.plain_literals s

/-- `from_user_input` rejects a text only if it is too long with its backslashes, and the pattern
finds just the texts that hold it, up to case. -/
theorem createLiteral_finds_text [Interpreter] (c : Config)
    (hsilent : ∀ b ∈ c.onBlock, b.failure = none) (now : Int) (t : String) :
    (escape t).length = t.length + t.toList.countP isSpecial ∧
    ∃ r, (createLiteral c now (.text t)).outcome = .ok r ∧
      (r.isSafe = false ↔ c.maxLength < (escape t).length) ∧
      (r.isSafe = false → r.reason = .patternTooLong) ∧
      (r.isSafe = true → r.reason = .ok ∧ ∃ p, r.pattern? = some p ∧
        (∀ s : String, ∃ found, p.search s = .ok found ∧
          (found = true ↔
            ∃ a w b, s.toList = a ++ w ++ b ∧ List.Forall₂ SameLetter t.toList w)) ∧
        ∀ a b : String, p.search (a ++ t ++ b) = .ok true) := by
  refine ⟨length_escape t, ?_⟩
  by_cases h : c.maxLength < (escape t).length
  · refine ⟨_, createText_of_length_gt hsilent h now ignoreCase, ?_, ?_, ?_⟩
    · simp [Result.isSafe, h]
    · simp [Result.reason]
    · simp [Result.isSafe]
  · obtain ⟨p, hcompile, hfinds⟩ := compile_escape_finds t
    have hcreate : createLiteral c now (.text t) = .silent (.ok (.accepted p)) :=
      createText_of_clear (Nat.not_lt.1 h) (analyze_escape t) hcompile now
    refine ⟨.accepted p, by rw [hcreate]; rfl, ?_, ?_, ?_⟩
    · simp [Result.isSafe, h]
    · simp [Result.isSafe]
    · intro _
      refine ⟨rfl, p, rfl, hfinds, fun a b => ?_⟩
      obtain ⟨found, hsearch, hfound⟩ := hfinds (a ++ t ++ b)
      rw [hsearch, hfound.2 ⟨a.toList, t.toList, b.toList, by simp, ?_⟩]
      exact List.forall₂_same.2 fun x _ => SameLetter.refl x

theorem createLiteral_finds_repeated_group :
    (∀ b ∈ some (Callback.mk 0 none), b.failure = none) ∧
    ∃ r, (createLiteral ⟨9, 1000, 1, some ⟨0, none⟩, none⟩ 0 (.text "(a+)+")).outcome = .ok r ∧
      r.isSafe = true ∧ ∃ p, r.pattern? = some p ∧ p.search "x(a+)+y" = .ok true := by
  have hsilent : ∀ b ∈ some (Callback.mk 0 none), b.failure = none := by
    intro b hb
    cases hb
    rfl
  obtain ⟨hlength, r, hr, hrejected, -, haccepted⟩ :=
    createLiteral_finds_text ⟨9, 1000, 1, some ⟨0, none⟩, none⟩ hsilent 0 "(a+)+"
  have hsafe : r.isSafe = true := by
    rw [← Bool.not_eq_false, hrejected, hlength]
    decide
  obtain ⟨-, p, hp, -, hfinds⟩ := haccepted hsafe
  exact ⟨hsilent, r, hr, hsafe, p, hp, hfinds "x" "y"⟩

theorem compile_toPattern_finds [Interpreter] (g : String) :
    ∃ p, Pattern.compile (Glob.toPattern g) .ignoringCase = .ok p ∧
      ∀ s : String, ∃ found, p.search s = .ok found ∧
        (found = true ↔ Glob.Matches (Glob.tokens g.toList) s.toList) := by
  refine ⟨_, Glob.compile_toPattern g, fun s => ?_⟩
  rw [← Glob.nodes_spans_iff_matches]
  exact Pattern.search_caseless (Glob.plain_nodes (Glob.tokens g.toList)) s

/-- `glob_to_regex` accepts a glob unless its pattern is too long, and the pattern finds just the
texts that the glob matches from end to end. -/
theorem createGlob_matches_whole_text [Interpreter] (c : Config) (now : Int) (g : String)
    (h : (Glob.toPattern g).length ≤ c.maxLength) :
    ∃ p, createGlob c now (.text g) = .silent (.ok (.accepted p)) ∧
      (∀ s : String, ∃ found, p.search s = .ok found ∧
        (found = true ↔ Glob.Matches (Glob.tokens g.toList) s.toList)) ∧
      ∀ s : String, p.search (s ++ "\n") = .ok true →
        ∃ t ∈ Glob.tokens g.toList, ∃ w, t.Takes (w ++ ['\n']) := by
  obtain ⟨p, hcompile, hfinds⟩ := compile_toPattern_finds g
  refine ⟨p, createText_of_clear h (Glob.analyze_toPattern g) hcompile now, hfinds, ?_⟩
  intro s hs
  obtain ⟨found, hsearch, hfound⟩ := hfinds (s ++ "\n")
  rw [hs, Except.ok.injEq] at hsearch
  have hmatches := hfound.1 hsearch.symm
  rw [String.toList_append] at hmatches
  exact hmatches.exists_takes_newline

theorem createGlob_matches_markdown :
    (Glob.toPattern "**.md").length ≤ Config.standard.maxLength ∧
    ∃ p, createGlob .standard 0 (.text "**.md") = .silent (.ok (.accepted p)) ∧
      p.search "docs/guide.MD" = .ok true ∧ p.search "docs/guide.MD\n" = .ok false := by
  have hlength : (Glob.toPattern "**.md").length ≤ Config.standard.maxLength := by decide
  have htokens : Glob.tokens "**.md".toList = [.anyRun, .char '.', .char 'm', .char 'd'] := by
    decide
  obtain ⟨p, hp, hfinds, hnewline⟩ := createGlob_matches_whole_text .standard 0 "**.md" hlength
  rw [htokens] at hfinds hnewline
  refine ⟨hlength, p, hp, ?_, ?_⟩
  · obtain ⟨found, hsearch, hfound⟩ := hfinds "docs/guide.MD"
    have hmatches : Glob.Matches [.anyRun, .char '.', .char 'm', .char 'd']
        ("docs/guide".toList ++ (['.'] ++ (['M'] ++ (['D'] ++ [])))) := by
      refine .cons ?_ (.cons ⟨'.', rfl, ?_⟩ (.cons ⟨'M', rfl, ?_⟩ (.cons ⟨'D', rfl, ?_⟩ .nil)))
      · change '\n' ∉ _
        decide
      · decide
      · decide
      · decide
    rw [hsearch, hfound.2 hmatches]
  · obtain ⟨found, hsearch, hfound⟩ := hfinds "docs/guide.MD\n"
    rw [hsearch]
    cases found with
    | false => rfl
    | true =>
      obtain ⟨t, ht, w, hw⟩ := hnewline "docs/guide.MD" hsearch
      have hchar : ∀ c, (Glob.Token.char c).Takes (w ++ ['\n']) → SameLetter c '\n' := by
        intro c ⟨x, hx, hsame⟩
        have hmem : '\n' ∈ w ++ ['\n'] := List.mem_concat_self
        rw [hx, List.mem_singleton] at hmem
        rwa [← hmem] at hsame
      simp only [List.mem_cons, List.not_mem_nil, or_false] at ht
      rcases ht with rfl | rfl | rfl | rfl
      · exact absurd List.mem_concat_self hw
      · exact absurd (hchar '.' hw) (by decide)
      · exact absurd (hchar 'm' hw) (by decide)
      · exact absurd (hchar 'd' hw) (by decide)

/-- The pattern of a glob is cleared by `analyze_pattern` and compiles, so `glob_to_regex` rejects a
glob for its length and for nothing else. -/
theorem createGlob_rejects_length_only [Interpreter] (g : String) :
    (∀ sig : Hazard.Signature, sig.occursIn (Glob.toPattern g).toList = false) ∧
    Hazard.nesting (Glob.toPattern g).toList = 0 ∧
    Hazard.analyze (Glob.toPattern g).toList = .clear ∧
    ∃ p, compile (Glob.toPattern g) ignoreCase = .ok p ∧
      ∀ c : Config, (∀ b ∈ c.onBlock, b.failure = none) → ∀ now : Int,
        ∃ r, (createGlob c now (.text g)).outcome = .ok r ∧
          (r.isSafe = false ↔ c.maxLength < (Glob.toPattern g).length) ∧
          (r.isSafe = false → r.reason = .patternTooLong) ∧
          (r.isSafe = true → r = .accepted p) := by
  have hclear := Glob.analyze_toPattern g
  have hcompile := Glob.compile_toPattern g
  refine ⟨fun sig => ?_, Glob.nesting_toPattern g, hclear, _, compile_ignoreCase hcompile, ?_⟩
  · rw [← Bool.not_eq_true, Hazard.Signature.occursIn_iff]
    exact Hazard.not_holds_of_analyze hclear sig
  · intro c hsilent now
    exact createText_decided_by_length hsilent hclear hcompile now

theorem createGlob_rejects_only_long_brackets :
    (∀ b ∈ some (Callback.mk 0 none), b.failure = none) ∧
    (∃ r, (createGlob ⟨16, 1000, 1, some ⟨0, none⟩, none⟩ 0 (.text "]*[*?*")).outcome = .ok r ∧
      r.reason = .patternTooLong) ∧
    ∃ p, (createGlob .standard 0 (.text "]*[*?*")).outcome = .ok (.accepted p) := by
  have hsilent : ∀ b ∈ some (Callback.mk 0 none), b.failure = none := by
    intro b hb
    cases hb
    rfl
  obtain ⟨-, -, -, p, -, hdecided⟩ := createGlob_rejects_length_only "]*[*?*"
  refine ⟨hsilent, ?_, p, ?_⟩
  · obtain ⟨r, hr, hrejected, hreason, -⟩ :=
      hdecided ⟨16, 1000, 1, some ⟨0, none⟩, none⟩ hsilent 0
    exact ⟨r, hr, hreason (hrejected.2 (by decide))⟩
  · obtain ⟨r, hr, hrejected, -, haccepted⟩ := hdecided .standard (by simp [Config.standard]) 0
    have hsafe : r.isSafe = true := by
      rw [← Bool.not_eq_false, hrejected]
      decide
    rw [hr, haccepted hsafe]

variable {c : Config} {now : Int} {g : String} {p : Pattern}

theorem createGlob_accepted [Interpreter] (h : (Glob.toPattern g).length ≤ c.maxLength) :
    ∃ p, (createGlob c now (.text g)).outcome = .ok (.accepted p) := by
  obtain ⟨p, hcompile, -⟩ := compile_toPattern_finds g
  refine ⟨p, ?_⟩
  rw [show createGlob c now (.text g) = _ from
    createText_of_clear h (Glob.analyze_toPattern g) hcompile now]
  rfl

theorem createGlob_finds_iff [Interpreter]
    (h : (createGlob c now (.text g)).outcome = .ok (.accepted p)) (s : String) :
    p.search s = .ok true ↔ Glob.Matches (Glob.tokens g.toList) s.toList := by
  obtain ⟨q, hcompile, hfinds⟩ := compile_toPattern_finds g
  have hp : p = q :=
    Except.ok.inj ((compile_of_createText h).symm.trans (compile_ignoreCase hcompile))
  obtain ⟨found, hsearch, hfound⟩ := hfinds s
  rw [hp, hsearch, Except.ok.injEq]
  exact hfound

/-- `*` is a run without slashes and `**` a run without line ends, as `.` is compiled without
`DOTALL`. So `**` matches all that `*` does in texts without line ends. -/
theorem createGlob_stars_find_more [Interpreter] {u v : String} {q : Pattern}
    (hu : u.toList.getLast? ≠ some '*') (hv : v.toList.head? ≠ some '*')
    (hp : (createGlob c now (.text (u ++ "*" ++ v))).outcome = .ok (.accepted p))
    (hq : (createGlob c now (.text (u ++ "**" ++ v))).outcome = .ok (.accepted q)) (s : String) :
    (p.search s = .ok true ↔ Glob.RunBetween u.toList v.toList '/' s.toList) ∧
    (q.search s = .ok true ↔ Glob.RunBetween u.toList v.toList '\n' s.toList) ∧
    (p.search s = .ok true → '\n' ∉ s.toList → q.search s = .ok true) := by
  have hstar : p.search s = .ok true ↔ Glob.RunBetween u.toList v.toList '/' s.toList := by
    rw [createGlob_finds_iff hp, String.toList_append, String.toList_append]
    exact Glob.matches_star_iff hu hv
  have hstars : q.search s = .ok true ↔ Glob.RunBetween u.toList v.toList '\n' s.toList := by
    rw [createGlob_finds_iff hq, String.toList_append, String.toList_append]
    exact Glob.matches_stars_iff hu
  refine ⟨hstar, hstars, fun hfound hline => hstars.2 ?_⟩
  obtain ⟨a, w, b, hs, ha, -, hb⟩ := hstar.1 hfound
  refine ⟨a, w, b, hs, ha, fun hw => hline ?_, hb⟩
  rw [hs]
  simp [hw]

theorem createGlob_stars_find_more_letters :
    "a".toList.getLast? ≠ some '*' ∧ "b".toList.head? ≠ some '*' ∧
    ∃ p q, (createGlob .standard 0 (.text ("a" ++ "*" ++ "b"))).outcome = .ok (.accepted p) ∧
      (createGlob .standard 0 (.text ("a" ++ "**" ++ "b"))).outcome = .ok (.accepted q) ∧
      p.search "a.B" = .ok true ∧ q.search "a.B" = .ok true := by
  have hu : "a".toList.getLast? ≠ some '*' := by decide
  have hv : "b".toList.head? ≠ some '*' := by decide
  obtain ⟨p, hp⟩ : ∃ p,
      (createGlob .standard 0 (.text ("a" ++ "*" ++ "b"))).outcome = .ok (.accepted p) :=
    createGlob_accepted (by decide)
  obtain ⟨q, hq⟩ : ∃ q,
      (createGlob .standard 0 (.text ("a" ++ "**" ++ "b"))).outcome = .ok (.accepted q) :=
    createGlob_accepted (by decide)
  obtain ⟨hstar, -, hmore⟩ := createGlob_stars_find_more hu hv hp hq "a.B"
  have hletter {x y : Char} (hxy : SameLetter x y) : Glob.Matches [.char x] [y] :=
    .cons (w := [y]) ⟨y, rfl, hxy⟩ .nil
  have hfound : p.search "a.B" = .ok true :=
    hstar.2 ⟨['a'], ['.'], ['B'], rfl, hletter (by decide), by decide, hletter (by decide)⟩
  exact ⟨hu, hv, p, q, hp, hq, hfound, hmore hfound (by decide)⟩

theorem createGlob_stars_miss_line_end :
    "".toList.getLast? ≠ some '*' ∧ "".toList.head? ≠ some '*' ∧
    ∃ p q, (createGlob .standard 0 (.text ("" ++ "*" ++ ""))).outcome = .ok (.accepted p) ∧
      (createGlob .standard 0 (.text ("" ++ "**" ++ ""))).outcome = .ok (.accepted q) ∧
      p.search "\n" = .ok true ∧ q.search "\n" = .ok false :=
  ⟨by decide, by decide, _, _, rfl, rfl, rfl, rfl⟩

end PatternGuard.Guard
