import Mathlib.Data.List.Basic

/-
  Python's `re` for the patterns of `shared/prometheus/middleware.py`: a small regex syntax, its
  backtracking semantics, and `pattern.sub(repl, string)`.

  1. **Semantics.**  `Re.run r s` lists what remains of `s` after each way `r` can match a prefix
     of `s`, in the order Python's backtracking engine tries them: `[p]+` is greedy, so its
     LONGEST match comes first; `(?=r)` consumes nothing; `$` (without `MULTILINE`) matches at the
     end of the string AND just before a final `\n`.
  2. **Substitution.**  A `Pattern` starts with a literal character, so it never matches the empty
     string, and `Pattern.sub` is `re.sub` for it: scan left to right; at the leftmost position
     where the pattern matches, write the replacement for the FIRST match the engine finds there,
     and resume after that match.
  3. **The crux (`subGo_joinAfter`).**  Take a pattern that matches, after a `/`, exactly the
     segments accepted by `q` when they are followed by `/` or by the end of the string, and
     nothing else except the one case `$` adds: a last segment that ends with `\n` and is accepted
     without it.  Then over a `/`-separated string `re.sub` replaces exactly those segments
     (`replaceSegs`), one after another, since every match stops just before the next `/`.
-/

namespace Wegent.Prometheus

/-! ## Syntax and semantics -/

/-- The regex fragment the middleware's patterns use; groups `( )` only capture, and the
    replacements use no group, so they are left out. -/
inductive Re
  /-- A literal character. -/
  | lit (c : Char)
  /-- A character class such as `[0-9a-f]`. -/
  | cls (p : Char → Bool)
  /-- Concatenation. -/
  | seq (r₁ r₂ : Re)
  /-- `r₁|r₂`, the left branch tried first. -/
  | alt (r₁ r₂ : Re)
  /-- `r{n}`. -/
  | rep (n : Nat) (r : Re)
  /-- `[p]+`, greedy. -/
  | plus (p : Char → Bool)
  /-- The lookahead `(?=r)`. -/
  | look (r : Re)
  /-- `$`. -/
  | eol

/-- `[p]+`: the remainders after the longest run of `p` first, then after each shorter one. -/
def plusRun (p : Char → Bool) : List Char → List (List Char)
  | c :: t => if p c then plusRun p t ++ [t] else []
  | [] => []

/-- `r{n}` for a matcher `f` of `r`: `n` matches of `r` one after the other. -/
def repRun (f : List Char → List (List Char)) : Nat → List Char → List (List Char)
  | 0, s => [s]
  | n + 1, s => (f s).flatMap (repRun f n)

/-- The remainders after each match of `r` at the start of `s`, in backtracking order. -/
def Re.run : Re → List Char → List (List Char)
  | .lit c, d :: t => if d = c then [t] else []
  | .lit _, [] => []
  | .cls p, d :: t => if p d then [t] else []
  | .cls _, [] => []
  | .seq r₁ r₂, s => (r₁.run s).flatMap r₂.run
  | .alt r₁ r₂, s => r₁.run s ++ r₂.run s
  | .rep n r, s => repRun r.run n s
  | .plus p, s => plusRun p s
  | .look r, s => if (r.run s).isEmpty then [] else [s]
  | .eol, s => if s = [] ∨ s = ['\n'] then [s] else []

namespace Re

@[simp] theorem run_seq (r₁ r₂ : Re) (s : List Char) :
    (seq r₁ r₂).run s = (r₁.run s).flatMap r₂.run := rfl

@[simp] theorem run_alt (r₁ r₂ : Re) (s : List Char) :
    (alt r₁ r₂).run s = r₁.run s ++ r₂.run s := rfl

@[simp] theorem run_rep (n : Nat) (r : Re) (s : List Char) : (rep n r).run s = repRun r.run n s :=
  rfl

@[simp] theorem run_plus (p : Char → Bool) (s : List Char) : (plus p).run s = plusRun p s := rfl

@[simp] theorem run_look (r : Re) (s : List Char) :
    (look r).run s = if (r.run s).isEmpty then [] else [s] := rfl

@[simp] theorem run_eol (s : List Char) : eol.run s = if s = [] ∨ s = ['\n'] then [s] else [] :=
  rfl

@[simp] theorem run_lit_cons (c d : Char) (t : List Char) :
    (lit c).run (d :: t) = if d = c then [t] else [] := rfl

@[simp] theorem run_lit_nil (c : Char) : (lit c).run [] = [] := rfl

@[simp] theorem run_cls_cons (p : Char → Bool) (d : Char) (t : List Char) :
    (cls p).run (d :: t) = if p d then [t] else [] := rfl

@[simp] theorem run_cls_nil (p : Char → Bool) : (cls p).run [] = [] := rfl

end Re

/-- `(?=/|$)`: the next character is `/`, or the string ends, or only a final `\n` is left. -/
def slashOrEnd : Re := .look (.alt (.lit '/') .eol)

/-- The remainders `(?=/|$)` lets through. -/
def SlashOrEnd (s : List Char) : Prop := s = [] ∨ s = ['\n'] ∨ ∃ t, s = '/' :: t

instance (s : List Char) : Decidable (SlashOrEnd s) :=
  match s with
  | [] => isTrue (.inl rfl)
  | c :: t =>
    if h : c = '/' then isTrue (.inr (.inr ⟨t, by rw [h]⟩))
    else if h' : c :: t = ['\n'] then isTrue (.inr (.inl h'))
    else isFalse fun hs => by
      rcases hs with hs | hs | ⟨t', ht'⟩
      · exact List.cons_ne_nil _ _ hs
      · exact h' hs
      · exact h (List.cons.inj ht').1

theorem run_slashOrEnd (s : List Char) :
    slashOrEnd.run s = if SlashOrEnd s then [s] else [] := by
  rcases s with _ | ⟨c, t⟩
  · simp [slashOrEnd, SlashOrEnd]
  · by_cases h : c = '/'
    · subst h; simp [slashOrEnd, SlashOrEnd]
    · by_cases h' : c :: t = ['\n'] <;> simp [slashOrEnd, SlashOrEnd, h, h']

/-! ## Substitution -/

/-- A compiled pattern: a literal first character, then the rest. -/
structure Pattern where
  lead : Char
  body : Re

/-- The remainder after the engine's first match of `p` at the start of `s`, if it matches. -/
def Pattern.matchAt (p : Pattern) : List Char → Option (List Char)
  | c :: t => if c = p.lead then (p.body.run t).head? else none
  | [] => none

/-- `re.sub` from a position `n` characters before the end of the previous match. -/
def Pattern.subGo (p : Pattern) (repl : List Char) : Nat → List Char → List Char
  | _, [] => []
  | n + 1, _ :: t => p.subGo repl n t
  | 0, c :: t =>
    match p.matchAt (c :: t) with
    | some rem => repl ++ p.subGo repl (t.length - rem.length) t
    | none => c :: p.subGo repl 0 t

/-- `pattern.sub(repl, s)`. -/
def Pattern.sub (p : Pattern) (repl s : List Char) : List Char := p.subGo repl 0 s

namespace Pattern

variable (p : Pattern) (repl : List Char)

@[simp] theorem subGo_nil (n : Nat) : p.subGo repl n [] = [] := by
  cases n <;> rfl

/-- A position where the pattern does not match is copied. -/
theorem subGo_nomatch {c : Char} {t : List Char} (h : p.matchAt (c :: t) = none) :
    p.subGo repl 0 (c :: t) = c :: p.subGo repl 0 t := by
  simp only [subGo, h]

/-- Characters other than the first one of the pattern are copied. -/
theorem subGo_copy {x : List Char} (hx : ∀ c ∈ x, c ≠ p.lead) (y : List Char) :
    p.subGo repl 0 (x ++ y) = x ++ p.subGo repl 0 y := by
  induction x with
  | nil => rfl
  | cons c x ih =>
    have hc : c ≠ p.lead := hx c (List.mem_cons_self c x)
    rw [List.cons_append, p.subGo_nomatch repl (by simp [matchAt, hc]),
      ih fun d hd => hx d (List.mem_cons_of_mem c hd), List.cons_append]

/-- The rest of a match is skipped. -/
theorem subGo_skip (x y : List Char) : p.subGo repl x.length (x ++ y) = p.subGo repl 0 y := by
  induction x with
  | nil => rfl
  | cons c x ih => exact ih

/-- A match at `c` that leaves `r` of `x ++ r` writes the replacement and resumes at `r`. -/
theorem subGo_match {c : Char} {t : List Char} (x r : List Char) (ht : t = x ++ r)
    (h : p.matchAt (c :: t) = some r) :
    p.subGo repl 0 (c :: t) = repl ++ p.subGo repl 0 r := by
  simp only [subGo, h]
  subst ht
  rw [List.length_append, Nat.add_sub_cancel, subGo_skip]

end Pattern

/-! ## Segment patterns -/

/-- The string `/s₁/s₂/.../sₙ`. -/
def joinAfter (segs : List (List Char)) : List Char := segs.flatMap ('/' :: ·)

@[simp] theorem joinAfter_nil : joinAfter [] = [] := rfl

@[simp] theorem joinAfter_cons (s : List Char) (segs : List (List Char)) :
    joinAfter (s :: segs) = '/' :: (s ++ joinAfter segs) := rfl

/-- `seg₀/s₁/.../sₙ` is `seg₀` followed by `/s₁/.../sₙ`. -/
theorem intercalate_eq_joinAfter (x : List Char) (segs : List (List Char)) :
    ['/'].intercalate (x :: segs) = x ++ joinAfter segs := by
  induction segs generalizing x with
  | nil => simp [List.intercalate]
  | cons s segs ih =>
    have ih := ih s
    simp only [List.intercalate, List.intersperse_cons₂, List.flatten_cons] at ih ⊢
    rw [ih]
    simp

theorem joinAfter_concat (segs : List (List Char)) (s : List Char) :
    joinAfter (segs ++ [s]) = joinAfter segs ++ '/' :: s := by
  simp [joinAfter]

/-- The last segment in the one case `$` adds: it ends with `\n` and is accepted without it. -/
def EolCase (q : List Char → Bool) (s : List Char) : Prop :=
  s.getLast? = some '\n' ∧ q s.dropLast = true

instance (q : List Char → Bool) (s : List Char) : Decidable (EolCase q s) :=
  inferInstanceAs (Decidable (_ ∧ _))

/-- What `re.sub` turns the last segment into. -/
def lastReplace (q : List Char → Bool) (tag s : List Char) : List Char :=
  if q s then tag else if EolCase q s then tag ++ ['\n'] else s

/-- The segments after `re.sub` with the replacement `/tag`: each accepted segment becomes `tag`,
    and the last one as `lastReplace` says. -/
def replaceSegs (q : List Char → Bool) (tag : List Char) : List (List Char) → List (List Char)
  | [] => []
  | [s] => [lastReplace q tag s]
  | s :: s' :: segs => (if q s then tag else s) :: replaceSegs q tag (s' :: segs)

/-- Every segment but the last is replaced or kept as it is. -/
theorem replaceSegs_concat (q : List Char → Bool) (tag : List Char) (init : List (List Char))
    (s : List Char) : replaceSegs q tag (init ++ [s]) =
      init.map (fun x => if q x then tag else x) ++ [lastReplace q tag s] := by
  induction init with
  | nil => rfl
  | cons x init ih =>
    cases init with
    | nil => rfl
    | cons y init =>
      show (if q x then tag else x) :: replaceSegs q tag (y :: init ++ [s]) = _
      rw [ih]; rfl

theorem slash_not_mem_lastReplace {q : List Char → Bool} {tag s : List Char} (htag : '/' ∉ tag)
    (hs : '/' ∉ s) : '/' ∉ lastReplace q tag s := by
  unfold lastReplace
  split_ifs <;> simp [htag, hs]

/-- A pattern that, after `/`, matches exactly the segments `q` accepts. -/
structure SegmentPattern (q : List Char → Bool) where
  pat : Pattern
  lead : pat.lead = '/'
  /-- A segment followed by `/`: a match exactly when `q` accepts it, ending at the `/`. -/
  inner : ∀ s t, '/' ∉ s → (pat.body.run (s ++ '/' :: t)).head? =
    if q s then some ('/' :: t) else none
  /-- The last segment: a match when `q` accepts it, or in the `$` case, before the `\n`. -/
  last : ∀ s, '/' ∉ s → (pat.body.run s).head? =
    if q s then some [] else if EolCase q s then some ['\n'] else none

namespace SegmentPattern

variable {q : List Char → Bool} (P : SegmentPattern q) (tag : List Char)

theorem matchAt_slash (t : List Char) : P.pat.matchAt ('/' :: t) = (P.pat.body.run t).head? := by
  simp [Pattern.matchAt, P.lead]

/-- A string without `/` is copied. -/
theorem subGo_plain {x : List Char} (hx : '/' ∉ x) (y : List Char) :
    P.pat.subGo ('/' :: tag) 0 (x ++ y) = x ++ P.pat.subGo ('/' :: tag) 0 y :=
  P.pat.subGo_copy _ (fun _ hc h => hx (P.lead ▸ h ▸ hc)) y

theorem subGo_last {s : List Char} (hs : '/' ∉ s) :
    P.pat.subGo ('/' :: tag) 0 ('/' :: s) = '/' :: lastReplace q tag s := by
  have hm := P.last s hs
  by_cases hq : q s
  · rw [P.pat.subGo_match _ s [] (by simp) (by rw [matchAt_slash, hm, if_pos hq])]
    simp [lastReplace, hq]
  by_cases he : EolCase q s
  · have hs' : s = s.dropLast ++ ['\n'] := (List.dropLast_append_getLast? '\n' he.1).symm
    rw [P.pat.subGo_match _ s.dropLast ['\n'] hs' (by simp [matchAt_slash, hm, hq, he]),
      ← List.append_nil ['\n'], P.subGo_plain tag (by simp)]
    simp [lastReplace, hq, he]
  · rw [P.pat.subGo_nomatch _ (by simp [matchAt_slash, hm, hq, he]), ← List.append_nil s,
      P.subGo_plain tag hs]
    simp [lastReplace, hq, he]

/-- **`re.sub` over segments**: after the first one, each segment is replaced as
    `replaceSegs` says. -/
theorem subGo_joinAfter (segs : List (List Char)) (hsegs : ∀ s ∈ segs, '/' ∉ s) :
    P.pat.subGo ('/' :: tag) 0 (joinAfter segs) = joinAfter (replaceSegs q tag segs) := by
  induction segs with
  | nil => rfl
  | cons s segs ih =>
    have hs := hsegs s (List.mem_cons_self s segs)
    have ih := ih fun s' hs' => hsegs s' (List.mem_cons_of_mem s hs')
    cases segs with
    | nil => simpa [replaceSegs] using P.subGo_last tag hs
    | cons s' segs =>
      have hm := P.inner s (s' ++ joinAfter segs) hs
      rw [← joinAfter_cons] at hm
      rw [joinAfter_cons s (s' :: segs)]
      by_cases hq : q s
      · rw [P.pat.subGo_match _ s _ rfl (by rw [matchAt_slash, hm, if_pos hq]), ih]
        simp [replaceSegs, hq]
      · rw [P.pat.subGo_nomatch _ (by rw [matchAt_slash, hm, if_neg hq]), P.subGo_plain tag hs, ih]
        simp [replaceSegs, hq]

end SegmentPattern

end Wegent.Prometheus
