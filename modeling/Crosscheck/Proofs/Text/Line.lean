import Crosscheck.Text.Line
import Mathlib.Data.List.DropRight

/-!
# Trimmed text, words and last lines

Trimming leaves what stands between white space at the two ends, and words are what stands between
white space anywhere: both are described here without the functions that find them. The last line
with something on it is looked for from the end: what comes after the last newline is tried first,
then what comes before it. So lines in front of a text that is not blank, white space at its end,
and a carriage return before each newline leave the last line alone.
-/

namespace Crosscheck.Text

/-- Whether there is nothing but white space. -/
def IsBlank (cs : List Char) : Prop := ∀ c ∈ cs, isWhiteSpace c = true

instance (cs : List Char) : Decidable (IsBlank cs) :=
  List.decidableBAll (isWhiteSpace · = true) cs

/-- What does not see a blank character at the end of a text does not see white space there,
however much. -/
theorem IsBlank.apply_append {α : Type} {f : List Char → α}
    (hf : ∀ c, isWhiteSpace c = true → ∀ cs, f (cs ++ [c]) = f cs) {blank : List Char}
    (hblank : IsBlank blank) (cs : List Char) : f (cs ++ blank) = f cs := by
  induction blank using List.reverseRecOn with
  | nil => rw [List.append_nil]
  | append_singleton blank c ih =>
    rw [IsBlank, List.forall_mem_append] at hblank
    rw [← List.append_assoc, hf c (hblank.2 c (by simp)), ih hblank.1]

/-! ### Trimming -/

/-- Text is trimmed at both ends by dropping what passes the test for white space. -/
theorem trim_eq_rdropWhile (cs : List Char) :
    trim cs = (cs.dropWhile isWhiteSpace).rdropWhile isWhiteSpace := rfl

/-- Nothing is left of a blank text, and of no other one. -/
theorem trim_eq_nil_iff {cs : List Char} : trim cs = [] ↔ IsBlank cs := by
  rw [trim_eq_rdropWhile, List.rdropWhile_eq_nil_iff]
  constructor
  · intro h c hc
    rw [← List.takeWhile_append_dropWhile (p := isWhiteSpace) (l := cs), List.mem_append] at hc
    exact hc.elim List.mem_takeWhile_imp (h c)
  · intro h c hc
    exact h c ((List.dropWhile_suffix _).subset hc)

/-- White space at the end is not seen. -/
theorem trim_append_singleton (c : Char) (hc : isWhiteSpace c = true) (cs : List Char) :
    trim (cs ++ [c]) = trim cs := by
  rw [trim_eq_rdropWhile, trim_eq_rdropWhile, List.dropWhile_append]
  split
  · rename_i hblank
    rw [List.isEmpty_iff.mp hblank, List.dropWhile_cons_of_pos hc, List.dropWhile_nil]
  · exact List.rdropWhile_concat_pos _ _ _ hc

/-- Whether a part of a text is all of it but the white space at the two ends. -/
structure TrimsTo (cs part : List Char) : Prop where
  exists_append : ∃ front back, cs = front ++ part ++ back ∧ IsBlank front ∧ IsBlank back
  head : ∀ c ∈ part.head?, isWhiteSpace c = false
  last : ∀ c ∈ part.getLast?, isWhiteSpace c = false

/-- Trimming yields the part between the white space at the ends. -/
theorem trimsTo_trim (cs : List Char) : TrimsTo cs (trim cs) where
  exists_append := by
    refine ⟨cs.takeWhile isWhiteSpace, (cs.dropWhile isWhiteSpace).rtakeWhile isWhiteSpace, ?_,
      fun c hc => List.mem_takeWhile_imp hc, fun c hc => List.mem_rtakeWhile_imp hc⟩
    rw [trim_eq_rdropWhile, List.append_assoc, List.rdropWhile_append_rtakeWhile,
      List.takeWhile_append_dropWhile]
  head := by
    intro c hc
    obtain ⟨back, hback⟩ := List.rdropWhile_prefix isWhiteSpace (l := cs.dropWhile isWhiteSpace)
    have hhead := List.head?_dropWhile_not isWhiteSpace cs
    rw [← hback, List.head?_append, ← trim_eq_rdropWhile, Option.mem_def.mp hc] at hhead
    simpa using hhead
  last := by
    intro c hc
    obtain ⟨hne, rfl⟩ := List.mem_getLast?_eq_getLast hc
    exact Bool.eq_false_iff.mpr (List.rdropWhile_last_not isWhiteSpace _ hne)

/-- A text that neither begins nor ends with white space is left as it is. -/
theorem trim_eq_self {cs : List Char} (hhead : ∀ c ∈ cs.head?, isWhiteSpace c = false)
    (hlast : ∀ c ∈ cs.getLast?, isWhiteSpace c = false) : trim cs = cs := by
  have hdrop : cs.dropWhile isWhiteSpace = cs := by
    cases cs with
    | nil => rfl
    | cons c cs => exact List.dropWhile_cons_of_neg (Bool.eq_false_iff.mp (hhead c rfl))
  rw [trim_eq_rdropWhile, hdrop, List.rdropWhile_eq_self_iff]
  intro hne
  exact Bool.eq_false_iff.mp (hlast _ (List.getLast?_eq_some_getLast hne))

/-- White space around a text is trimmed, and what is between it is left. -/
theorem TrimsTo.trim_eq {cs part : List Char} (h : TrimsTo cs part) : trim cs = part := by
  obtain ⟨⟨front, back, rfl, hfront, hback⟩, hhead, hlast⟩ := h
  rw [hback.apply_append trim_append_singleton, trim_eq_rdropWhile,
    List.dropWhile_append_of_pos hfront, ← trim_eq_rdropWhile, trim_eq_self hhead hlast]

/-- Trimming yields the one part of a text that is all of it but the white space at the ends. -/
theorem trim_eq_iff {cs part : List Char} : trim cs = part ↔ TrimsTo cs part :=
  ⟨fun h => h ▸ trimsTo_trim cs, TrimsTo.trim_eq⟩

/-! ### Pieces -/

variable {p : Char → Bool}

/-- There is a piece at least. -/
theorem splitAtEach_ne_nil (p : Char → Bool) (cs : List Char) : splitAtEach p cs ≠ [] := by
  cases cs with
  | nil => simp [splitAtEach]
  | cons c cs =>
    rw [splitAtEach]
    split
    · simp
    · split <;> simp

/-- A text without a divider is one piece. -/
theorem splitAtEach_eq_singleton {cs : List Char} (h : ∀ c ∈ cs, p c = false) :
    splitAtEach p cs = [cs] := by
  induction cs with
  | nil => rfl
  | cons c cs ih =>
    have hc : ¬p c = true := by simp [h c (by simp)]
    rw [splitAtEach, if_neg hc, ih fun d hd => h d (by simp [hd])]

/-- A divider divides a text into the pieces before it and those after it. -/
theorem splitAtEach_append_cons {c : Char} (hc : p c = true) (before after : List Char) :
    splitAtEach p (before ++ c :: after) = splitAtEach p before ++ splitAtEach p after := by
  induction before with
  | nil => simp [splitAtEach, hc]
  | cons d before ih =>
    rw [List.cons_append, splitAtEach, splitAtEach, ih]
    split
    · rfl
    · -- The first piece before the divider is prolonged, and there is one.
      obtain ⟨piece, pieces, hpieces⟩ := List.exists_cons_of_ne_nil (splitAtEach_ne_nil p before)
      rw [hpieces]
      rfl

/-! ### Words -/

/-- Whether a text consists of words and white space around them: there is white space between
two words, and none inside a word. -/
inductive HasWords : List Char → List (List Char) → Prop
  | blank {cs : List Char} : IsBlank cs → HasWords cs []
  | word {front word rest : List Char} {ws : List (List Char)} :
      IsBlank front → word ≠ [] → (∀ c ∈ word, isWhiteSpace c = false) →
      (∀ c ∈ rest.head?, isWhiteSpace c = true) → HasWords rest ws →
      HasWords (front ++ word ++ rest) (word :: ws)

/-- White space divides the words before it from those after it. -/
theorem words_append_cons {c : Char} (hc : isWhiteSpace c = true) (before after : List Char) :
    words (before ++ c :: after) = words before ++ words after := by
  rw [words, splitAtEach_append_cons hc, List.filter_append, words, words]

/-- White space in front belongs to no word. -/
theorem words_blank_append {front : List Char} (hfront : IsBlank front) (cs : List Char) :
    words (front ++ cs) = words cs := by
  induction front with
  | nil => rfl
  | cons c front ih =>
    rw [IsBlank, List.forall_mem_cons] at hfront
    have hdivide := words_append_cons hfront.1 [] (front ++ cs)
    rw [List.nil_append] at hdivide
    rw [List.cons_append, hdivide, ih hfront.2]
    rfl

/-- A text without white space is one word, unless it is empty. -/
theorem words_eq_singleton {word : List Char} (hne : word ≠ [])
    (h : ∀ c ∈ word, isWhiteSpace c = false) : words word = [word] := by
  rw [words, splitAtEach_eq_singleton h]
  simp [hne]

/-- The words that a text consists of are those that are found. -/
theorem HasWords.words_eq {cs : List Char} {ws : List (List Char)} (h : HasWords cs ws) :
    words cs = ws := by
  induction h with
  | @blank cs hblank => simpa [words, splitAtEach] using words_blank_append hblank []
  | @word front word rest ws hfront hne hword hrest _ ih =>
    rw [List.append_assoc, words_blank_append hfront, ← ih]
    cases rest with
    | nil =>
      rw [List.append_nil, words_eq_singleton hne hword]
      rfl
    | cons c rest =>
      have hc := hrest c rfl
      have hskip : words (c :: rest) = words rest :=
        words_blank_append (List.forall_mem_singleton.mpr hc) rest
      rw [words_append_cons hc, words_eq_singleton hne hword, hskip]
      rfl

/-- Every text consists of words and white space. -/
theorem exists_hasWords (cs : List Char) : ∃ ws, HasWords cs ws := by
  induction hlength : cs.length using Nat.strong_induction_on generalizing cs with
  | _ length ih =>
    have hsplit := List.takeWhile_append_dropWhile (p := isWhiteSpace) (l := cs)
    have hfront : IsBlank (cs.takeWhile isWhiteSpace) := fun c hc => List.mem_takeWhile_imp hc
    have hstart := List.head?_dropWhile_not isWhiteSpace cs
    cases hafter : cs.dropWhile isWhiteSpace with
    | nil => exact ⟨[], .blank (List.dropWhile_eq_nil_iff.mp hafter)⟩
    | cons c after =>
      -- The first word goes from here to the next white space, and the induction goes on there.
      let isLetter (d : Char) : Bool := !isWhiteSpace d
      have hc : isWhiteSpace c = false := by simpa [hafter] using hstart
      have hword : c :: after = (c :: after.takeWhile isLetter) ++ after.dropWhile isLetter := by
        rw [List.cons_append, List.takeWhile_append_dropWhile]
      have hshorter : (after.dropWhile isLetter).length < length := by
        have hlengths := congrArg List.length hsplit
        rw [hafter, hword, List.length_append, List.length_append, List.length_cons] at hlengths
        omega
      obtain ⟨ws, hws⟩ := ih _ hshorter _ rfl
      rw [hafter, hword, ← List.append_assoc] at hsplit
      refine ⟨(c :: after.takeWhile isLetter) :: ws, hsplit ▸ .word hfront (by simp) ?_ ?_ hws⟩
      · intro d hd
        rcases List.mem_cons.mp hd with rfl | hd
        · exact hc
        · simpa [isLetter] using List.mem_takeWhile_imp hd
      · intro d hd
        have hend := List.head?_dropWhile_not isLetter after
        rw [Option.mem_def.mp hd] at hend
        simpa [isLetter] using hend

/-- The words of a text are what it consists of apart from white space. -/
theorem words_eq_iff {cs : List Char} {ws : List (List Char)} : words cs = ws ↔ HasWords cs ws := by
  refine ⟨?_, HasWords.words_eq⟩
  rintro rfl
  obtain ⟨ws, hws⟩ := exists_hasWords cs
  rwa [hws.words_eq]

/-! ### Last lines -/

/-- What is true of a single line, and stays true when a newline and a line are appended, is true
of every text. -/
theorem line_induction {motive : List Char → Prop}
    (line : ∀ line, '\n' ∉ line → motive line)
    (append : ∀ front line, '\n' ∉ line → motive front → motive (front ++ '\n' :: line))
    (cs : List Char) : motive cs := by
  suffices h : ∀ later, '\n' ∉ later → motive (cs ++ later) by
    simpa using h [] (by simp)
  induction cs using List.reverseRecOn with
  | nil => exact line
  | append_singleton cs c ih =>
    intro later hlater
    rw [List.append_assoc, List.singleton_append]
    by_cases hc : c = '\n'
    · subst c
      exact append cs later hlater (by simpa using ih [] (by simp))
    · exact ih (c :: later) (by simp [hlater, Ne.symm hc])

/-- The last line of a single line is the line itself, unless it is blank. -/
theorem lastLine?_of_line {line : List Char} (h : '\n' ∉ line) :
    lastLine? line = if trim line = [] then none else some (trim line) := by
  have hpiece : splitAtEach (· == '\n') line = [line] := by
    apply splitAtEach_eq_singleton
    rintro c hc
    exact beq_eq_false_iff_ne.mpr fun heq => h (heq ▸ hc)
  rw [lastLine?, hpiece]
  by_cases hblank : trim line = [] <;> simp [hblank]

/-- The last line is looked for after a newline first, and then before it. -/
theorem lastLine?_append_newline (front back : List Char) :
    lastLine? (front ++ '\n' :: back) = (lastLine? back).or (lastLine? front) := by
  simp only [lastLine?]
  rw [splitAtEach_append_cons (by simp), List.map_append, List.filter_append, List.getLast?_append]

/-- A single line is the last line unless it is blank. -/
theorem lastLine?_eq_none_iff_of_line {line : List Char} (h : '\n' ∉ line) :
    lastLine? line = none ↔ IsBlank line := by
  rw [lastLine?_of_line h, ← trim_eq_nil_iff]
  simp

/-- A text has a last line unless it is blank. -/
theorem lastLine?_eq_none_iff {cs : List Char} : lastLine? cs = none ↔ IsBlank cs := by
  induction cs using line_induction with
  | line line hline => exact lastLine?_eq_none_iff_of_line hline
  | append front line hline ih =>
    have hnewline : isWhiteSpace '\n' = true := by decide
    rw [lastLine?_append_newline, Option.or_eq_none_iff, ih, lastLine?_eq_none_iff_of_line hline]
    simp only [IsBlank, List.forall_mem_append, List.forall_mem_cons, hnewline, true_and]
    exact And.comm

/-- A text that is not blank has the last line that it has without the lines in front of it. -/
theorem lastLine?_lines_append {cs : List Char} (hcs : ¬IsBlank cs) (lines : List (List Char)) :
    lastLine? (lines.flatMap (· ++ ['\n']) ++ cs) = lastLine? cs := by
  induction lines with
  | nil => rfl
  | cons line lines ih =>
    obtain ⟨last, hlast⟩ := Option.ne_none_iff_exists'.mp (mt lastLine?_eq_none_iff.mp hcs)
    rw [List.flatMap_cons, List.append_assoc, List.append_assoc, List.singleton_append,
      lastLine?_append_newline, ih, hlast, Option.some_or]

/-- A blank character at the end does not change the last line. -/
theorem lastLine?_append_singleton (c : Char) (hc : isWhiteSpace c = true) (cs : List Char) :
    lastLine? (cs ++ [c]) = lastLine? cs := by
  by_cases hnewline : c = '\n'
  · subst c
    rw [lastLine?_append_newline]
    rfl
  have hsingle {line : List Char} (hline : '\n' ∉ line) :
      lastLine? (line ++ [c]) = lastLine? line := by
    have hlonger : '\n' ∉ line ++ [c] := by simp [hline, Ne.symm hnewline]
    rw [lastLine?_of_line hlonger, lastLine?_of_line hline, trim_append_singleton c hc]
  induction cs using line_induction with
  | line line hline => exact hsingle hline
  | append front line hline _ =>
    rw [List.append_assoc, List.cons_append, lastLine?_append_newline, hsingle hline,
      lastLine?_append_newline]

/-- White space at the end does not change the last line. -/
theorem lastLine?_append_blank {blank : List Char} (hblank : IsBlank blank) (cs : List Char) :
    lastLine? (cs ++ blank) = lastLine? cs :=
  hblank.apply_append lastLine?_append_singleton cs

/-- The same text with a carriage return before each newline. -/
def withReturns (cs : List Char) : List Char :=
  cs.flatMap fun c => if c = '\n' then ['\r', '\n'] else [c]

/-- A single line has no newline to put a carriage return before. -/
theorem withReturns_of_line {line : List Char} (h : '\n' ∉ line) : withReturns line = line := by
  induction line with
  | nil => rfl
  | cons c line ih =>
    rw [List.mem_cons, not_or] at h
    rw [withReturns, List.flatMap_cons, if_neg (Ne.symm h.1)]
    exact congrArg (c :: ·) (ih h.2)

/-- Carriage returns before the newlines do not change the last line. -/
theorem lastLine?_withReturns (cs : List Char) : lastLine? (withReturns cs) = lastLine? cs := by
  induction cs using line_induction with
  | line line hline => rw [withReturns_of_line hline]
  | append front line hline ih =>
    have hreturns : withReturns (front ++ '\n' :: line) =
        withReturns front ++ ['\r'] ++ '\n' :: withReturns line := by
      simp [withReturns]
    have hreturn : isWhiteSpace '\r' = true := by decide
    rw [hreturns, lastLine?_append_newline, lastLine?_append_singleton _ hreturn, ih,
      withReturns_of_line hline, lastLine?_append_newline]

end Crosscheck.Text
