import Wegent.Prometheus.Regex

/-
  Route normalization: `NUMERIC_PATH_PATTERN`, `UUID_PATH_PATTERN`, `normalize_route` and
  `get_route_template` (`shared/prometheus/middleware.py`, lines 33-91).

  1. **Program.**  The two patterns as `Re` terms; `normalizeRoute` returns a non-empty template,
     and otherwise substitutes `/{uuid}` for the UUID pattern, then `/{id}` for the numeric one.
     `\d` is any `DigitClass`: the class Python uses is the Unicode decimal digits, which on
     ASCII are exactly `0`-`9`; nothing here depends on the digits beyond ASCII.
  2. **Specification.**  `segmentNormalized` says what the two substitutions are for, segment by
     segment: split at `/`, replace each ID segment (`isIdSegment`) by `{id}` and each UUID
     segment (`isUuidSegment`, the 8-4-4-4-12 form) by `{uuid}`, rejoin.
  3. **The crux.**  Each pattern is a `SegmentPattern`: after a `/` it matches exactly its
     segments when they are followed by `/` or by the end (`numericSegments`, `uuidSegments`).
     So `re.sub` replaces segment by segment, and the second pass finds the first one's
     `{uuid}` untouched.  The one exception is `$`, which also matches before a final `\n`: on
     `/123\n` the code gives `/{id}\n` where the segments give `/123\n`
     (`normalizeRoute_trailing_newline`).
  4. **Result.**  `normalizeRoute_spec`: the segment-wise route, with a final `\n` set aside,
     and normalization is idempotent.
-/

namespace Wegent.Prometheus

/-! ## The patterns -/

/-- The class `\d`: on ASCII exactly `0`-`9`, as in Python; Unicode digits beyond ASCII may be
    in it as well. -/
structure DigitClass where
  mem : Char → Bool
  ascii : ∀ c : Char, c.toNat < 128 → (mem c = true ↔ '0' ≤ c ∧ c ≤ '9')

/-- The class `[0-9]`. -/
def asciiDigits : DigitClass where
  mem c := '0' ≤ c && c ≤ '9'
  ascii _ _ := by simp

/-- `[0-9a-f]` under `re.IGNORECASE`. -/
def isHex (c : Char) : Bool := ('0' ≤ c && c ≤ '9') || ('a' ≤ c && c ≤ 'f') || ('A' ≤ c && c ≤ 'F')

/-- `re.compile(r"/(\d+)(?=/|$)")`. -/
def numericPathPattern (D : DigitClass) : Pattern := ⟨'/', .seq (.plus D.mem) slashOrEnd⟩

/-- `[0-9a-f]{8}-[0-9a-f]{4}-[0-9a-f]{4}-[0-9a-f]{4}-[0-9a-f]{12}`. -/
def uuidCore : Re :=
  .seq (.rep 8 (.cls isHex)) (.seq (.lit '-') (.seq (.rep 4 (.cls isHex)) (.seq (.lit '-')
    (.seq (.rep 4 (.cls isHex)) (.seq (.lit '-') (.seq (.rep 4 (.cls isHex)) (.seq (.lit '-')
      (.rep 12 (.cls isHex)))))))))

/-- `re.compile(r"/([0-9a-f]{8}-...-[0-9a-f]{12})(?=/|$)", re.IGNORECASE)`. -/
def uuidPathPattern : Pattern := ⟨'/', .seq uuidCore slashOrEnd⟩

/-- `normalize_route(path, route_template)`. -/
def normalizeRoute (D : DigitClass) (path : String) (routeTemplate : Option String) : String :=
  match routeTemplate with
  | some t => if t ≠ "" then t else fallback
  | none => fallback
where
  /-- The two substitutions, UUIDs first. -/
  fallback : String :=
    ⟨(numericPathPattern D).sub "/{id}".data (uuidPathPattern.sub "/{uuid}".data path.data)⟩

/-- `get_route_template(request)`: the `path` of the route in the request's scope, when there is
    a route and it has one; otherwise the normalized URL path. -/
def getRouteTemplate (D : DigitClass) (route : Option (Option String)) (urlPath : String) :
    String :=
  match route with
  | some (some path) => path
  | _ => normalizeRoute D urlPath none

/-! ## The segment-wise route -/

/-- The 8-4-4-4-12 form: `true` marks a `-`, `false` a hexadecimal digit. -/
def uuidForm : List Bool :=
  List.replicate 8 false ++ [true] ++ List.replicate 4 false ++ [true] ++ List.replicate 4 false ++
    [true] ++ List.replicate 4 false ++ [true] ++ List.replicate 12 false

/-- A character fits a place of a form: a `-`, or a hexadecimal digit. -/
def fitsChar (m : Bool) (c : Char) : Bool := if m then c == '-' else isHex c

/-- `s` has the form `m`, character by character. -/
def fitsForm : List Bool → List Char → Bool
  | [], [] => true
  | m :: ms, c :: s => fitsChar m c && fitsForm ms s
  | _, _ => false

/-- A segment made of digits only, at least one. -/
def isIdSegment (D : DigitClass) (s : List Char) : Bool := !s.isEmpty && s.all D.mem

/-- A segment that is a UUID in 8-4-4-4-12 hexadecimal form, in either letter case. -/
def isUuidSegment (s : List Char) : Bool := fitsForm uuidForm s

/-- What a segment becomes. -/
def normalizeSegment (D : DigitClass) (s : List Char) : List Char :=
  if isIdSegment D s then "{id}".data else if isUuidSegment s then "{uuid}".data else s

/-- Split at `/`, normalize each segment, rejoin with `/`. -/
def segmentNormalized (D : DigitClass) (p : String) : String :=
  ⟨['/'].intercalate ((p.data.splitOn '/').map (normalizeSegment D))⟩

/-! ## Characters -/

namespace DigitClass

variable (D : DigitClass)

theorem mem_eq_false {c : Char} (hc : c.toNat < 128) (h : ¬('0' ≤ c ∧ c ≤ '9')) :
    D.mem c = false := by
  simpa using mt (D.ascii c hc).mp h

@[simp] theorem mem_slash : D.mem '/' = false := D.mem_eq_false (by decide) (by decide)
@[simp] theorem mem_newline : D.mem '\n' = false := D.mem_eq_false (by decide) (by decide)
@[simp] theorem mem_dash : D.mem '-' = false := D.mem_eq_false (by decide) (by decide)
@[simp] theorem mem_brace : D.mem '{' = false := D.mem_eq_false (by decide) (by decide)

end DigitClass

/-! ## `\d+(?=/|$)` -/

theorem dropWhile_of_takeWhile_nil {p : Char → Bool} {t : List Char} (h : t.takeWhile p = []) :
    t.dropWhile p = t := by
  cases t with
  | nil => rfl
  | cons c t => by_cases hc : p c <;> simp_all

/-- `[p]+`: nothing when no `p` starts the string, else the rest after the longest run first,
    then rests that start with a `p`. -/
theorem plusRun_cases (p : Char → Bool) (t : List Char) :
    (plusRun p t = [] ∧ t.takeWhile p = []) ∨
    (t.takeWhile p ≠ [] ∧ ∃ rest, plusRun p t = t.dropWhile p :: rest ∧
      ∀ r ∈ rest, ∃ c r', r = c :: r' ∧ p c = true) := by
  induction t with
  | nil => exact .inl ⟨rfl, rfl⟩
  | cons c t ih =>
    by_cases hc : p c
    · refine .inr ⟨by simp [hc], ?_⟩
      rcases ih with ⟨h1, h2⟩ | ⟨h1, rest, h2, h3⟩
      · exact ⟨[], by simp [plusRun, hc, h1, dropWhile_of_takeWhile_nil h2], by simp⟩
      · refine ⟨rest ++ [t], by simp [plusRun, hc, h2], fun r hr => ?_⟩
        rcases List.mem_append.mp hr with hr | hr
        · exact h3 r hr
        · rw [List.mem_singleton.mp hr]
          cases t with
          | nil => exact absurd rfl h1
          | cons c' t' => exact ⟨c', t', rfl, by by_contra h; simp_all⟩
    · exact .inl ⟨by simp [plusRun, hc], by simp [hc]⟩

/-- `[p]+(?=/|$)`, for a class without `/` and `\n`: the engine's first match ends after the
    longest run of `p`, when that run is not empty and `(?=/|$)` holds there. -/
theorem head?_plus_slashOrEnd {p : Char → Bool} (hp : ∀ c, p c = true → c ≠ '/' ∧ c ≠ '\n')
    (t : List Char) :
    ((Re.seq (.plus p) slashOrEnd).run t).head? =
      if t.takeWhile p ≠ [] ∧ SlashOrEnd (t.dropWhile p) then some (t.dropWhile p) else none := by
  have hrest : ∀ c r, p c = true → ¬SlashOrEnd (c :: r) := fun c r hc h => by
    rcases h with h | h | ⟨t', h⟩
    · exact List.cons_ne_nil _ _ h
    · exact (hp c hc).2 (List.cons.inj h).1
    · exact (hp c hc).1 (List.cons.inj h).1
  rcases plusRun_cases p t with ⟨h1, h2⟩ | ⟨h1, rest, h2, h3⟩
  · simp [h1, h2]
  · have hnil : rest.flatMap slashOrEnd.run = [] := List.flatMap_eq_nil_iff.mpr fun r hr => by
      obtain ⟨c, r', rfl, hc⟩ := h3 r hr
      simp [run_slashOrEnd, hrest c r' hc]
    by_cases hs : SlashOrEnd (t.dropWhile p) <;> simp [h1, h2, hnil, run_slashOrEnd, hs]

/-- `$` before a final `\n`: the run of `p` stops just before it exactly when the string is a
    non-empty run of `p` and a `\n`. -/
theorem takeWhile_eol_iff {p : Char → Bool} (hn : p '\n' = false) (s : List Char) :
    (s.takeWhile p ≠ [] ∧ s.dropWhile p = ['\n']) ↔
      (s.getLast? = some '\n' ∧ s.dropLast ≠ [] ∧ ∀ x ∈ s.dropLast, p x = true) := by
  constructor
  · rintro ⟨h1, h2⟩
    have hs : s = s.takeWhile p ++ ['\n'] := by rw [← h2, List.takeWhile_append_dropWhile]
    rw [hs]
    exact ⟨by simp, by simpa using h1, by simpa using fun x => List.mem_takeWhile_imp⟩
  · rintro ⟨h1, h2, h3⟩
    have hs : s = s.dropLast ++ ['\n'] := (List.dropLast_append_getLast? '\n' h1).symm
    rw [hs, List.takeWhile_append_of_pos h3, List.dropWhile_append_of_pos h3]
    simp [hn, h2]

theorem dropWhile_eq_cons {p : Char → Bool} {s e : List Char} {c : Char}
    (h : s.dropWhile p = c :: e) : c ∈ s ∧ p c = false := by
  refine ⟨(List.dropWhile_suffix p).subset (h ▸ List.mem_cons_self c e), ?_⟩
  simpa [h] using List.head_dropWhile_not p s (by simp [h])

/-- `\d+(?=/|$)` after `/` matches exactly the ID segments. -/
def numericSegments (D : DigitClass) : SegmentPattern (isIdSegment D) where
  pat := numericPathPattern D
  lead := rfl
  inner s t hs := by
    have hp : ∀ c, D.mem c = true → c ≠ '/' ∧ c ≠ '\n' := fun c hc =>
      ⟨fun h => by simp [h] at hc, fun h => by simp [h] at hc⟩
    show ((Re.seq (.plus D.mem) slashOrEnd).run _).head? = _
    rw [head?_plus_slashOrEnd hp]
    cases hd : s.dropWhile D.mem with
    | nil =>
      have hall := List.dropWhile_eq_nil_iff.mp hd
      rw [List.takeWhile_append_of_pos hall, List.dropWhile_append_of_pos hall]
      by_cases he : s = []
      · simp [he, isIdSegment]
      · simpa [he, isIdSegment, SlashOrEnd] using hall
    | cons c e =>
      obtain ⟨hcs, hc⟩ := dropWhile_eq_cons hd
      have hnot : ¬SlashOrEnd (c :: (e ++ '/' :: t)) := by
        rintro (h | h | ⟨t', h⟩)
        · exact List.cons_ne_nil _ _ h
        · simp at h
        · exact hs ((List.cons.inj h).1 ▸ hcs)
      have hid : isIdSegment D s = false := by
        simp only [isIdSegment, Bool.and_eq_false_iff]
        exact .inr (List.all_eq_false.mpr ⟨c, hcs, by simp [hc]⟩)
      simp [List.dropWhile_append, hd, hnot, hid]
  last s hs := by
    have hp : ∀ c, D.mem c = true → c ≠ '/' ∧ c ≠ '\n' := fun c hc =>
      ⟨fun h => by simp [h] at hc, fun h => by simp [h] at hc⟩
    show ((Re.seq (.plus D.mem) slashOrEnd).run _).head? = _
    rw [head?_plus_slashOrEnd hp]
    cases hd : s.dropWhile D.mem with
    | nil =>
      have hall := List.dropWhile_eq_nil_iff.mp hd
      have htw : s.takeWhile D.mem = s := by simpa [hd] using List.takeWhile_append_dropWhile D.mem s
      by_cases he : s = []
      · subst he; simp [isIdSegment, EolCase]
      · have hid : isIdSegment D s = true := by
          simpa [isIdSegment, List.all_eq_true.mpr hall] using he
        simp [htw, he, hid, SlashOrEnd]
    | cons c e =>
      obtain ⟨hcs, hc⟩ := dropWhile_eq_cons hd
      have hid : isIdSegment D s = false := by
        simp only [isIdSegment, Bool.and_eq_false_iff]
        exact .inr (List.all_eq_false.mpr ⟨c, hcs, by simp [hc]⟩)
      have hsoe : SlashOrEnd (c :: e) ↔ c :: e = ['\n'] := by
        refine ⟨fun h => ?_, fun h => .inr (.inl h)⟩
        rcases h with h | h | ⟨t', h⟩
        · exact absurd h (List.cons_ne_nil _ _)
        · exact h
        · exact absurd ((List.cons.inj h).1 ▸ hcs) hs
      have key := takeWhile_eol_iff D.mem_newline s
      rw [hd] at key
      have heol : EolCase (isIdSegment D) s ↔ (s.takeWhile D.mem ≠ [] ∧ c :: e = ['\n']) := by
        rw [key]; simp [EolCase, isIdSegment]
      by_cases h : EolCase (isIdSegment D) s
      · simp [SlashOrEnd, hid, h, heol.mp h]
      · simp only [hsoe, hid, h, ← heol]; simp

/-! ## The UUID pattern -/

/-- Matching a fixed-width form, place by place. -/
def formRun : List Bool → List Char → List (List Char)
  | [], t => [t]
  | m :: ms, c :: t => if fitsChar m c then formRun ms t else []
  | _ :: _, [] => []

theorem formRun_append (m₁ m₂ : List Bool) (t : List Char) :
    formRun (m₁ ++ m₂) t = (formRun m₁ t).flatMap (formRun m₂) := by
  induction m₁ generalizing t with
  | nil => simp [formRun]
  | cons m ms ih =>
    cases t with
    | nil => rfl
    | cons c t => by_cases h : fitsChar m c <;> simp [formRun, h, ih]

theorem run_rep_hex (n : Nat) : (Re.rep n (.cls isHex)).run = formRun (List.replicate n false) := by
  funext t
  induction n generalizing t with
  | zero => rfl
  | succ n ih =>
    cases t with
    | nil => rfl
    | cons c t => by_cases h : isHex c <;> simp_all [repRun, formRun, fitsChar]

theorem run_lit_dash : (Re.lit '-').run = formRun [true] := by
  funext t
  cases t with
  | nil => rfl
  | cons c t => by_cases h : c = '-' <;> simp [formRun, fitsChar, h]

theorem run_seq_form {r₁ r₂ : Re} {m₁ m₂ : List Bool} (h₁ : r₁.run = formRun m₁)
    (h₂ : r₂.run = formRun m₂) : (r₁.seq r₂).run = formRun (m₁ ++ m₂) := by
  funext t
  simp [formRun_append, h₁, h₂]

/-- The UUID regex is the 8-4-4-4-12 form. -/
theorem run_uuidCore : uuidCore.run = formRun uuidForm := by
  simp only [uuidCore, uuidForm, List.append_assoc]
  repeat' first | apply run_seq_form | exact run_rep_hex _ | exact run_lit_dash

/-- A form reads exactly its own width. -/
theorem formRun_append_of_length {m : List Bool} {s : List Char} (h : s.length = m.length)
    (x : List Char) : formRun m (s ++ x) = if fitsForm m s then [x] else [] := by
  induction m generalizing s with
  | nil => obtain rfl := List.eq_nil_of_length_eq_zero h; rfl
  | cons b ms ih =>
    cases s with
    | nil => cases h
    | cons c s =>
      show (if fitsChar b c then formRun ms (s ++ x) else []) =
        if (fitsChar b c && fitsForm ms s) then [x] else []
      rw [ih (Nat.succ.inj h)]
      cases fitsChar b c <;> rfl

/-- A string shorter than the form, then the end or a `/`, does not fit it. -/
theorem formRun_short {m : List Bool} {s : List Char} (h : s.length < m.length) {x : List Char}
    (hx : x = [] ∨ ∃ t, x = '/' :: t) : formRun m (s ++ x) = [] := by
  induction s generalizing m with
  | nil =>
    obtain ⟨b, ms, rfl⟩ := List.exists_cons_of_length_pos h
    rcases hx with rfl | ⟨t, rfl⟩
    · rfl
    · cases b <;> simp [formRun, fitsChar, isHex]
  | cons c s ih =>
    obtain ⟨b, ms, rfl⟩ := List.exists_cons_of_length_pos (Nat.lt_of_le_of_lt (Nat.zero_le _) h)
    by_cases hc : fitsChar b c <;> simp [formRun, hc, ih (by simpa using h)]

theorem fitsForm_length {m : List Bool} {s : List Char} (h : fitsForm m s = true) :
    s.length = m.length := by
  induction m generalizing s with
  | nil => cases s with
    | nil => rfl
    | cons c s => cases h
  | cons b ms ih =>
    cases s with
    | nil => cases h
    | cons c s =>
      simp only [fitsForm, Bool.and_eq_true] at h
      simp [ih h.2]

theorem length_uuidForm : uuidForm.length = 36 := rfl

theorem isUuidSegment_eq_false {s : List Char} (h : s.length ≠ 36) : isUuidSegment s = false := by
  cases hu : isUuidSegment s
  · rfl
  · exact absurd ((fitsForm_length hu).trans length_uuidForm) h

/-- The UUID pattern matches exactly the UUID segments. -/
def uuidSegments : SegmentPattern isUuidSegment where
  pat := uuidPathPattern
  lead := rfl
  inner s t hs := by
    rw [show uuidPathPattern.body = .seq uuidCore slashOrEnd from rfl, Re.run_seq, run_uuidCore]
    by_cases hl : s.length < 36
    · rw [formRun_short (m := uuidForm) hl (.inr ⟨t, rfl⟩), isUuidSegment_eq_false (by omega)]; rfl
    obtain ⟨x, y, rfl, hx⟩ : ∃ x y, s = x ++ y ∧ x.length = 36 :=
      ⟨_, _, (List.take_append_drop 36 s).symm, by simp; omega⟩
    rw [List.append_assoc, formRun_append_of_length (hx.trans length_uuidForm.symm)]
    cases y with
    | nil => by_cases hf : fitsForm uuidForm x <;> simp [hf, isUuidSegment, run_slashOrEnd, SlashOrEnd]
    | cons c e =>
      have hc : c ≠ '/' := fun h => hs (by simp [h])
      rw [isUuidSegment_eq_false (by simp; omega)]
      by_cases hf : fitsForm uuidForm x <;> simp [hf, run_slashOrEnd, SlashOrEnd, hc]
  last s hs := by
    rw [show uuidPathPattern.body = .seq uuidCore slashOrEnd from rfl, Re.run_seq, run_uuidCore]
    by_cases hl : s.length < 36
    · have h := formRun_short (m := uuidForm) hl (x := []) (.inl rfl)
      rw [List.append_nil] at h
      rw [h, isUuidSegment_eq_false (by omega)]
      simp [EolCase, isUuidSegment_eq_false (s := s.dropLast) (by simp; omega)]
    obtain ⟨x, y, rfl, hx⟩ : ∃ x y, s = x ++ y ∧ x.length = 36 :=
      ⟨_, _, (List.take_append_drop 36 s).symm, by simp; omega⟩
    rw [formRun_append_of_length (hx.trans length_uuidForm.symm)]
    cases y with
    | nil =>
      have hd := isUuidSegment_eq_false (s := x.dropLast) (by simp; omega)
      by_cases hf : fitsForm uuidForm x <;> simp_all [isUuidSegment, run_slashOrEnd, SlashOrEnd, EolCase]
    | cons c e =>
      have hc : c ≠ '/' := fun h => hs (by simp [h])
      rw [isUuidSegment_eq_false (by simp; omega)]
      cases e with
      | nil =>
        by_cases hf : fitsForm uuidForm x <;> by_cases hn : c = '\n' <;>
          simp [hf, hc, hn, run_slashOrEnd, SlashOrEnd, EolCase, isUuidSegment]
      | cons d e =>
        have hd := isUuidSegment_eq_false (s := x ++ c :: (d :: e).dropLast) (by simp; omega)
        by_cases hf : fitsForm uuidForm x <;> simp [hf, hd, run_slashOrEnd, SlashOrEnd, EolCase, hc]

@[simp] theorem uuidSegments_pat : uuidSegments.pat = uuidPathPattern := rfl

@[simp] theorem numericSegments_pat (D : DigitClass) : (numericSegments D).pat = numericPathPattern D :=
  rfl

/-! ## Which segments are which -/

theorem fitsForm_mem {m : List Bool} {s : List Char} (h : fitsForm m s = true) {c : Char}
    (hc : c ∈ s) : c = '-' ∨ isHex c = true := by
  induction m generalizing s with
  | nil => cases s <;> simp_all [fitsForm]
  | cons b ms ih =>
    cases s with
    | nil => simp at hc
    | cons d s =>
      simp only [fitsForm, Bool.and_eq_true] at h
      rcases List.mem_cons.mp hc with rfl | hc
      · cases b <;> simp_all [fitsChar]
      · exact ih h.2 hc

theorem dash_mem_of_fitsForm {m : List Bool} {s : List Char} (h : fitsForm m s = true)
    (hm : true ∈ m) : '-' ∈ s := by
  induction m generalizing s with
  | nil => simp at hm
  | cons b ms ih =>
    cases s with
    | nil => simp [fitsForm] at h
    | cons d s =>
      simp only [fitsForm, Bool.and_eq_true] at h
      rcases List.mem_cons.mp hm with rfl | hm
      · simp_all [fitsChar]
      · exact List.mem_cons_of_mem _ (ih h.2 hm)

section

variable (D : DigitClass)

/-- The tags `{id}` and `{uuid}` are segments of neither kind. -/
@[simp] theorem isIdSegment_brace (s : List Char) : isIdSegment D ('{' :: s) = false := by
  simp [isIdSegment]

@[simp] theorem isUuidSegment_brace (s : List Char) : isUuidSegment ('{' :: s) = false := rfl

/-- A UUID has a `-`, so it is no ID. -/
theorem isIdSegment_of_isUuidSegment {s : List Char} (h : isUuidSegment s = true) :
    isIdSegment D s = false := by
  cases hi : isIdSegment D s
  · rfl
  · simp only [isIdSegment, Bool.and_eq_true, List.all_eq_true] at hi
    simpa using hi.2 _ (dash_mem_of_fitsForm h (by decide))

theorem isIdSegment_of_newline {s : List Char} (h : '\n' ∈ s) : isIdSegment D s = false := by
  cases hi : isIdSegment D s
  · rfl
  · simp only [isIdSegment, Bool.and_eq_true, List.all_eq_true] at hi
    simpa using hi.2 _ h

theorem isUuidSegment_of_newline {s : List Char} (h : '\n' ∈ s) : isUuidSegment s = false := by
  cases hu : isUuidSegment s
  · rfl
  · exact absurd (fitsForm_mem hu h) (by decide)

theorem slash_not_mem_normalizeSegment {s : List Char} (hs : '/' ∉ s) :
    '/' ∉ normalizeSegment D s := by
  unfold normalizeSegment
  split_ifs
  exacts [by decide, by decide, hs]

theorem normalizeSegment_normalizeSegment (s : List Char) :
    normalizeSegment D (normalizeSegment D s) = normalizeSegment D s := by
  by_cases hi : isIdSegment D s
  · simp [normalizeSegment, hi]
  · by_cases hu : isUuidSegment s <;> simp [normalizeSegment, hi, hu]

/-! ## The two passes -/

/-- What the two passes make of the last segment: a final `\n` is set aside. -/
def normalizeLast (s : List Char) : List Char :=
  if s.getLast? = some '\n' then normalizeSegment D s.dropLast ++ ['\n'] else normalizeSegment D s

/-- The UUID pass, then the ID pass, on a segment followed by `/`. -/
theorem passes_inner :
    (fun x => if isIdSegment D x then "{id}".data else x) ∘
      (fun x => if isUuidSegment x then "{uuid}".data else x) = normalizeSegment D := by
  funext s
  by_cases hu : isUuidSegment s
  · simp [normalizeSegment, hu, isIdSegment_of_isUuidSegment D hu]
  · simp [normalizeSegment, hu]

/-- The same on the last segment. -/
theorem passes_last (s : List Char) :
    lastReplace (isIdSegment D) "{id}".data (lastReplace isUuidSegment "{uuid}".data s) =
      normalizeLast D s := by
  by_cases hn : s.getLast? = some '\n'
  · have hs : s.dropLast ++ ['\n'] = s := List.dropLast_append_getLast? '\n' hn
    have hmem := List.mem_of_getLast?_eq_some hn
    by_cases hu : isUuidSegment s.dropLast
    · simp [lastReplace, EolCase, normalizeLast, normalizeSegment, hn, hu,
        isUuidSegment_of_newline hmem, isIdSegment_of_isUuidSegment D hu]
    · by_cases hi : isIdSegment D s.dropLast <;>
        simp [lastReplace, EolCase, normalizeLast, normalizeSegment, hn, hu, hi, hs,
          isUuidSegment_of_newline hmem, isIdSegment_of_newline D hmem]
  · have hE : ∀ q, ¬EolCase q s := fun q h => hn h.1
    by_cases hu : isUuidSegment s
    · simp [lastReplace, hE, normalizeLast, normalizeSegment, hn, hu,
        isIdSegment_of_isUuidSegment D hu, EolCase]
    · simp [lastReplace, hE, normalizeLast, normalizeSegment, hn, hu]

theorem slash_not_mem_normalizeLast {s : List Char} (hs : '/' ∉ s) : '/' ∉ normalizeLast D s := by
  have hd : '/' ∉ s.dropLast := fun h => hs ((List.dropLast_sublist s).subset h)
  unfold normalizeLast
  split_ifs
  · simpa using slash_not_mem_normalizeSegment D hd
  · exact slash_not_mem_normalizeSegment D hs

theorem normalizeLast_normalizeLast (s : List Char) :
    normalizeLast D (normalizeLast D s) = normalizeLast D s := by
  by_cases hn : s.getLast? = some '\n'
  · simp [normalizeLast, hn, normalizeSegment_normalizeSegment]
  · have hk : (normalizeSegment D s).getLast? ≠ some '\n' := by
      unfold normalizeSegment; split_ifs <;> simp [hn]
    simp [normalizeLast, hn, hk, normalizeSegment_normalizeSegment]

/-- **The two passes over a path**: every segment but the last is normalized, and the last one
    as `normalizeLast` says. -/
theorem normalizeRoute_joinAfter (init : List (List Char)) (s : List Char)
    (hinit : ∀ x ∈ init, '/' ∉ x) (hs : '/' ∉ s) :
    normalizeRoute D ⟨joinAfter (init ++ [s])⟩ none =
      ⟨joinAfter (init.map (normalizeSegment D) ++ [normalizeLast D s])⟩ := by
  have hall : ∀ x ∈ init ++ [s], '/' ∉ x := by simpa [or_imp, forall_and] using ⟨hinit, hs⟩
  have huuid := uuidSegments.subGo_joinAfter "{uuid}".data _ hall
  rw [uuidSegments_pat, replaceSegs_concat] at huuid
  show String.mk ((numericPathPattern D).subGo ('/' :: "{id}".data) 0
    (uuidPathPattern.subGo ('/' :: "{uuid}".data) 0 _)) = _
  rw [huuid, ← numericSegments_pat, SegmentPattern.subGo_joinAfter _ _ _ ?hsegs, replaceSegs_concat,
    List.map_map, passes_inner, passes_last]
  simp only [List.mem_append, List.mem_map, List.mem_singleton]
  rintro x (⟨y, hy, rfl⟩ | rfl)
  · split_ifs
    exacts [by decide, hinit y hy]
  · exact slash_not_mem_lastReplace (by decide) hs

/-! ## Paths as segments -/

/-- What follows a leading `/` is `/`-free segments, each after a `/`. -/
theorem exists_segments (r : List Char) :
    ∃ segs, (∀ s ∈ segs, '/' ∉ s) ∧ joinAfter segs = '/' :: r := by
  induction r with
  | nil => exact ⟨[[]], by simp, rfl⟩
  | cons c r ih =>
    obtain ⟨_ | ⟨s₀, ss⟩, hs, h⟩ := ih
    · simp at h
    · simp only [joinAfter_cons, List.cons.injEq, true_and] at h
      by_cases hc : c = '/'
      · exact ⟨[] :: s₀ :: ss, by simpa using hs, by simp [h, hc]⟩
      · exact ⟨(c :: s₀) :: ss, by simpa [hc, Ne.symm hc] using hs, by simp [h]⟩

theorem splitOn_joinAfter {segs : List (List Char)} (hs : ∀ s ∈ segs, '/' ∉ s) :
    (joinAfter segs).splitOn '/' = [] :: segs := by
  rw [← List.nil_append (joinAfter segs), ← intercalate_eq_joinAfter]
  exact List.splitOn_intercalate _ '/' (by simpa using hs) (List.cons_ne_nil _ _)

theorem segmentNormalized_joinAfter {segs : List (List Char)} (hs : ∀ s ∈ segs, '/' ∉ s) :
    segmentNormalized D ⟨joinAfter segs⟩ = ⟨joinAfter (segs.map (normalizeSegment D))⟩ := by
  simp only [segmentNormalized, splitOn_joinAfter hs, List.map_cons]
  rw [intercalate_eq_joinAfter]
  rfl

/-- A path that begins with `/` is `/s₁/.../sₙ` for `/`-free segments, the last one `s`. -/
theorem exists_init_last {p : List Char} (hp : p.head? = some '/') :
    ∃ init s, (∀ x ∈ init, '/' ∉ x) ∧ '/' ∉ s ∧ joinAfter (init ++ [s]) = p := by
  rcases p with _ | ⟨c, r⟩
  · simp at hp
  obtain rfl : c = '/' := by simpa using hp
  obtain ⟨segs, hsegs, hj⟩ := exists_segments r
  rcases List.eq_nil_or_concat segs with rfl | ⟨init, s, rfl⟩
  · simp at hj
  · simp only [List.concat_eq_append, List.mem_append, List.mem_singleton, or_imp, forall_and,
      forall_eq] at hsegs hj
    exact ⟨init, s, hsegs.1, hsegs.2, hj⟩

/-! ## Normalization is segment by segment -/

theorem normalizeRoute_eq_segmentNormalized {p : String} (hp : p.data.head? = some '/') :
    normalizeRoute D p none =
      if p.data.getLast? = some '\n' then segmentNormalized D ⟨p.data.dropLast⟩ ++ "\n"
      else segmentNormalized D p := by
  obtain ⟨init, s, hinit, hs, hj⟩ := exists_init_last hp
  obtain ⟨p⟩ := p
  subst hj
  rw [normalizeRoute_joinAfter D init s hinit hs]
  by_cases hn : s.getLast? = some '\n'
  · obtain ⟨s', rfl⟩ := List.getLast?_eq_some_iff.mp hn
    have hj : joinAfter (init ++ [s' ++ ['\n']]) = joinAfter (init ++ [s']) ++ ['\n'] := by
      simp [joinAfter_concat]
    have hall : ∀ x ∈ init ++ [s'], '/' ∉ x := by
      simpa [or_imp, forall_and] using ⟨hinit, fun h => hs (List.mem_append_left _ h)⟩
    simp only [hj, List.getLast?_concat, List.dropLast_concat, if_true,
      segmentNormalized_joinAfter D hall]
    exact congrArg String.mk (by simp [joinAfter_concat, normalizeLast])
  · have hl : (joinAfter (init ++ [s])).getLast? ≠ some '\n' := by
      rw [joinAfter_concat, List.getLast?_append_of_ne_nil _ (List.cons_ne_nil _ _),
        List.getLast?_cons]
      cases h : s.getLast? <;> simp_all
    have hall : ∀ x ∈ init ++ [s], '/' ∉ x := by simpa [or_imp, forall_and] using ⟨hinit, hs⟩
    rw [if_neg hl, segmentNormalized_joinAfter D hall]
    simp [normalizeLast, hn]

theorem normalizeRoute_normalizeRoute {p : String} (hp : p.data.head? = some '/') :
    normalizeRoute D (normalizeRoute D p none) none = normalizeRoute D p none := by
  obtain ⟨init, s, hinit, hs, hj⟩ := exists_init_last hp
  obtain ⟨p⟩ := p
  subst hj
  have hinit' : ∀ x ∈ init.map (normalizeSegment D), '/' ∉ x := by
    simp only [List.mem_map]
    rintro _ ⟨y, hy, rfl⟩
    exact slash_not_mem_normalizeSegment D (hinit y hy)
  rw [normalizeRoute_joinAfter D init s hinit hs,
    normalizeRoute_joinAfter D _ _ hinit' (slash_not_mem_normalizeLast D hs), List.map_map,
    normalizeLast_normalizeLast]
  simp [Function.comp_def, normalizeSegment_normalizeSegment]

end

/-- **Route normalization without a template.** A path that begins with `/` is normalized
    segment by segment (each ID segment becomes `{id}`, each UUID segment `{uuid}`), except
    that a final `\n` is set aside and the path before it is normalized; and normalizing the
    result again changes nothing. -/
theorem normalizeRoute_spec (D : DigitClass) (p : String) (hp : p.data.head? = some '/') :
    normalizeRoute D p none =
        (if p.data.getLast? = some '\n' then segmentNormalized D ⟨p.data.dropLast⟩ ++ "\n"
          else segmentNormalized D p) ∧
      normalizeRoute D (normalizeRoute D p none) none = normalizeRoute D p none :=
  ⟨normalizeRoute_eq_segmentNormalized D hp, normalizeRoute_normalizeRoute D hp⟩

theorem normalizeRoute_spec_tasks :
    "/api/tasks/123".data.head? = some '/' ∧
      normalizeRoute asciiDigits "/api/tasks/123" none =
          (if "/api/tasks/123".data.getLast? = some '\n' then
            segmentNormalized asciiDigits ⟨"/api/tasks/123".data.dropLast⟩ ++ "\n"
          else segmentNormalized asciiDigits "/api/tasks/123") ∧
        normalizeRoute asciiDigits (normalizeRoute asciiDigits "/api/tasks/123" none) none =
          normalizeRoute asciiDigits "/api/tasks/123" none :=
  ⟨rfl, normalizeRoute_spec asciiDigits "/api/tasks/123" rfl⟩

/-- `$` before a final `\n`: the code turns `/123\n` into `/{id}\n`, the segments leave it. -/
theorem normalizeRoute_trailing_newline :
    normalizeRoute asciiDigits "/123\n" none = "/{id}\n" ∧
      segmentNormalized asciiDigits "/123\n" = "/123\n" := by
  decide

/-- A path without a final `\n` whose segments are all kept is returned as it is. -/
theorem normalizeRoute_of_plain_segments (D : DigitClass) (p : String)
    (hp : p.data.head? = some '/') (hn : p.data.getLast? ≠ some '\n')
    (hseg : ∀ s ∈ p.data.splitOn '/', normalizeSegment D s = s) : normalizeRoute D p none = p := by
  rw [normalizeRoute_eq_segmentNormalized D hp, if_neg hn, segmentNormalized,
    List.map_congr_left hseg, List.map_id', List.intercalate_splitOn]

/-- The docstring's second example: `/api/users/abc-def-123` is kept, not `/api/users/{id}`. -/
theorem normalizeRoute_abc_def :
    "/api/users/abc-def-123".data.head? = some '/' ∧
      "/api/users/abc-def-123".data.getLast? ≠ some '\n' ∧
      (∀ s ∈ "/api/users/abc-def-123".data.splitOn '/', normalizeSegment asciiDigits s = s) ∧
      normalizeRoute asciiDigits "/api/users/abc-def-123" none = "/api/users/abc-def-123" :=
  have h : ∀ s ∈ "/api/users/abc-def-123".data.splitOn '/', normalizeSegment asciiDigits s = s := by
    decide
  ⟨rfl, by decide, h, normalizeRoute_of_plain_segments asciiDigits _ rfl (by decide) h⟩

end Wegent.Prometheus
