import GoXref.Text.Line

/-!
# `GoXref.Proofs.Text.Lines`: what the lines of a text look like

`Text.lines` reads a text character by character. Here its result is said
without that recursion, by the breaks that end the lines, and every other fact
about lines follows by induction on this.

* `Lined`: lines as they can follow one another. All but the last end in one
  break, and no line starts with the second half of a break.
* `lined_lines`: the lines of every text are such lines.
* `length_lines`: there is one line more than there are breaks.
* `Lined.exists_eq_append`: a line is its body and its ending.
* `Lined.exists_cut`, `Lined.not_cutsBreak`: wherever a text is cut, the
  cut lies in the body of a line or at its end, or else between the CR and the
  LF of one break. It is never both.
-/

set_option autoImplicit false

namespace GoXref.Text

/-- The line up to its first break character. -/
def body (line : Text) : Text := line.takeWhile fun c => !isBreak c

/-- One break: CR and LF together, or a single break character. -/
inductive IsEnding : Text → Prop where
  /-- A carriage return and the line feed right behind it. -/
  | crlf : IsEnding ['\r', '\n']
  /-- Any break character alone. -/
  | single {c : Char} (h : isBreak c = true) : IsEnding [c]

/-- Lines as they can follow one another. -/
inductive Lined : List Text → Prop where
  /-- The last line has no break. -/
  | last {front : Text} (hfront : ∀ c ∈ front, isBreak c = false) : Lined [front]
  /-- Every other line ends in one break, which the next line does not go on with. -/
  | cons {front ending : Text} {rest : List Text} (hfront : ∀ c ∈ front, isBreak c = false)
      (hending : IsEnding ending)
      (hwhole : ending = ['\r'] → rest.flatten.head? ≠ some '\n')
      (hrest : Lined rest) : Lined ((front ++ ending) :: rest)

/-- A text is cut inside a break if the cut parts a carriage return from the
line feed behind it. -/
def CutsBreak (front back : Text) : Prop :=
  front.getLast? = some '\r' ∧ back.head? = some '\n'

/-! ### The lines of a text -/

/-- The lines of a text follow one another as lines do. -/
theorem lined_lines (t : Text) : Lined (lines t) := by
  fun_induction lines t with
  | case1 => exact .last (by simp)
  | case2 rest ih =>
      show Lined (([] ++ ['\r', '\n']) :: lines rest)
      exact .cons (by simp) .crlf (by simp) ih
  | case3 c rest hcrlf hc ih =>
      show Lined (([] ++ [c]) :: lines rest)
      refine .cons (by simp) (.single hc) ?_ ih
      -- A carriage return in front of a line feed was the case before.
      intro hreturn hhead
      rw [flatten_lines] at hhead
      obtain ⟨rest', hrest⟩ := List.head?_eq_some_iff.mp hhead
      exact hcrlf rest' (List.singleton_inj.mp hreturn) hrest
  | case4 c rest hcrlf hc ih =>
      have hc : isBreak c = false := by simpa using hc
      -- The character goes in front of the first line, which keeps its ending.
      generalize lines rest = ls at ih
      cases ih with
      | last hfront => exact .last (List.forall_mem_cons.mpr ⟨hc, hfront⟩)
      | cons hfront hending hwhole hrest =>
          exact .cons (List.forall_mem_cons.mpr ⟨hc, hfront⟩) hending hwhole hrest

/-- A text without a break character is one line. -/
theorem lines_eq_singleton {t : Text} (ht : ∀ c ∈ t, isBreak c = false) : lines t = [t] := by
  fun_induction lines t with
  | case1 => rfl
  | case2 rest ih => exact absurd (ht '\r' List.mem_cons_self) (by decide)
  | case3 c rest hcrlf hc ih =>
      exact absurd hc (Bool.eq_false_iff.mp (ht c List.mem_cons_self))
  | case4 c rest hcrlf hc ih =>
      rw [ih fun c' hc' => ht c' (List.mem_cons_of_mem _ hc')]
      rfl

/-! ### Breaks -/

/-- Whether a break ends with character number `i`. A carriage return with a
line feed right behind it does not end its break. -/
def endsBreak (t : Text) (i : Nat) : Bool :=
  match t[i]? with
  | none => false
  | some c => isBreak c && !(c = '\r' && t[i + 1]? = some '\n')

/-- The number of breaks in a text. -/
def breakCount (t : Text) : Nat := (List.range t.length).countP (endsBreak t)

/-- The breaks of a text are those behind its first character, and one more if
that ends one. -/
theorem breakCount_cons (c : Char) (t : Text) :
    breakCount (c :: t) = breakCount t + if endsBreak (c :: t) 0 then 1 else 0 := by
  rw [breakCount, List.length_cons, List.range_succ_eq_map, List.countP_cons, List.countP_map]
  rfl

/-- There is one line more than there are breaks. -/
theorem length_lines (t : Text) : (lines t).length = breakCount t + 1 := by
  fun_induction lines t with
  | case1 => rfl
  | case2 rest ih =>
      -- The line feed ends the break, and the carriage return does not.
      rw [List.length_cons, ih, breakCount_cons, breakCount_cons]
      rfl
  | case3 c rest hcrlf hc ih =>
      have hends : endsBreak (c :: rest) 0 = true := by
        have halone : ¬ (c = '\r' ∧ rest.head? = some '\n') := by
          rintro ⟨hreturn, hhead⟩
          obtain ⟨rest', hrest⟩ := List.head?_eq_some_iff.mp hhead
          exact hcrlf rest' hreturn hrest
        rw [List.head?_eq_getElem?] at halone
        simpa [endsBreak, hc, ← Classical.not_and_iff_not_or_not] using halone
      rw [List.length_cons, ih, breakCount_cons, if_pos hends]
  | case4 c rest hcrlf hc ih =>
      have hends : ¬ endsBreak (c :: rest) 0 = true := by simp [endsBreak, hc]
      rw [List.length_modifyHead, ih, breakCount_cons, if_neg hends]

/-! ### One line -/

/-- An ending holds break characters only. -/
theorem IsEnding.isBreak {ending : Text} (h : IsEnding ending) :
    ∀ c ∈ ending, isBreak c = true := by
  cases h with
  | crlf => exact List.forall_mem_cons.mpr ⟨rfl, List.forall_mem_singleton.mpr rfl⟩
  | single h => exact List.forall_mem_singleton.mpr h

/-- An ending is not empty. -/
theorem IsEnding.ne_nil {ending : Text} (h : IsEnding ending) : ending ≠ [] := by
  cases h <;> simp

/-- The body of a line is what stands in front of its break characters. -/
theorem body_append {front ending : Text} (hfront : ∀ c ∈ front, isBreak c = false)
    (hending : ∀ c ∈ ending, isBreak c = true) : body (front ++ ending) = front := by
  rw [body, List.takeWhile_append_of_pos fun c hc => by rw [hfront c hc]; rfl]
  cases ending with
  | nil => simp
  | cons c ending => simp [hending c List.mem_cons_self]

/-- A text without a break character is all body. -/
theorem body_eq_self {t : Text} (ht : ∀ c ∈ t, isBreak c = false) : body t = t := by
  have hbody : body (t ++ []) = t := body_append ht fun _ hc => nomatch hc
  rwa [List.append_nil] at hbody

/-- The content of a line is what stands in front of its break characters. -/
theorem content_append {front ending : Text} (hfront : ∀ c ∈ front, isBreak c = false)
    (hending : ∀ c ∈ ending, isBreak c = true) : content (front ++ ending) = front := by
  rw [content, List.reverse_append,
    List.dropWhile_append_of_pos fun c hc => hending c (List.mem_reverse.mp hc)]
  -- Seen from its end, the front starts with a character that is no break.
  cases hreverse : front.reverse with
  | nil => simpa using hreverse.symm
  | cons c cs =>
      have hc : isBreak c = false := hfront c (List.mem_reverse.mp (hreverse ▸ List.mem_cons_self))
      rw [List.dropWhile_cons_of_neg (by simp [hc]), ← hreverse, List.reverse_reverse]

/-- A line is its body and its ending. Only the last line has no ending, and
every other one has one break. -/
theorem Lined.exists_eq_append {ls : List Text} (h : Lined ls) {i : Nat} {line : Text}
    (hi : ls[i]? = some line) :
    ∃ front ending, line = front ++ ending ∧ (∀ c ∈ front, isBreak c = false) ∧
      (∀ c ∈ ending, isBreak c = true) ∧
      ((i + 1 = ls.length ∧ ending = []) ∨ (i + 1 < ls.length ∧ IsEnding ending)) := by
  induction h generalizing i with
  | @last front hfront =>
      obtain ⟨hlt, rfl⟩ := List.getElem?_eq_some_iff.mp hi
      obtain rfl : i = 0 := by simpa using hlt
      exact ⟨front, [], by simp, hfront, by simp, .inl ⟨rfl, rfl⟩⟩
  | @cons front ending rest hfront hending hwhole hrest ih =>
      cases i with
      | zero =>
          obtain rfl : front ++ ending = line := Option.some.inj hi
          have hrest_pos : 0 < rest.length := by cases hrest <;> simp
          exact ⟨front, ending, rfl, hfront, hending.isBreak,
            .inr ⟨by simpa using hrest_pos, hending⟩⟩
      | succ i =>
          obtain ⟨front', ending', hline, hfront', hending', hlast⟩ := ih hi
          refine ⟨front', ending', hline, hfront', hending', ?_⟩
          simpa using hlast

/-- The content of a line is its body. -/
theorem content_eq_body {t line : Text} (h : line ∈ lines t) : content line = body line := by
  obtain ⟨i, hi⟩ := List.mem_iff_getElem?.mp h
  obtain ⟨front, ending, rfl, hfront, hending, -⟩ := (lined_lines t).exists_eq_append hi
  rw [content_append hfront hending, body_append hfront hending]

/-- The body of a line that is not the last is shorter than the line. -/
theorem Lined.length_body_lt {ls : List Text} (h : Lined ls) {i : Nat} {line : Text}
    (hi : ls[i]? = some line) (hlt : i + 1 < ls.length) : (body line).length < line.length := by
  obtain ⟨front, ending, rfl, hfront, hbreaks, ⟨hlast, -⟩ | ⟨-, hending⟩⟩ :=
    h.exists_eq_append hi
  · omega
  · rw [body_append hfront hbreaks, List.length_append]
    have hpos := List.length_pos_iff.mpr hending.ne_nil
    omega

/-! ### Cuts -/

/-- The body of a line has no break character. -/
theorem isBreak_of_mem_body {line : Text} {c : Char} (h : c ∈ body line) : isBreak c = false := by
  have hall := List.all_eq_true.mp (List.all_takeWhile (p := fun c => !isBreak c) (l := line)) c h
  simpa using hall

/-- A cut behind the start of an ending lies behind all of it, unless it parts
a carriage return from its line feed. -/
theorem IsEnding.prefix_of_append_eq {ending rest more back : Text} (h : IsEnding ending)
    (hmore : ending ++ rest = more ++ back) (hne : more ≠ []) (hbreak : ¬ CutsBreak more back) :
    ending <+: more := by
  cases h with
  | @single c hc =>
      obtain ⟨c', more, rfl⟩ := List.exists_cons_of_ne_nil hne
      obtain ⟨rfl, -⟩ := List.cons.inj hmore
      exact ⟨more, rfl⟩
  | crlf =>
      match more, hne with
      | [c], _ =>
          obtain ⟨rfl, rfl⟩ := List.cons.inj hmore
          exact absurd ⟨rfl, rfl⟩ hbreak
      | c :: c' :: more, _ =>
          simp only [List.cons_append, List.cons.injEq] at hmore
          obtain ⟨rfl, rfl, -⟩ := hmore
          exact ⟨more, rfl⟩

/-- A cut that lies inside a break still does with more text in front of it. -/
theorem CutsBreak.append_left {front back : Text} (h : CutsBreak front back) (before : Text) :
    CutsBreak (before ++ front) back := by
  refine ⟨?_, h.2⟩
  rw [List.getLast?_append, h.1]
  rfl

/-- Wherever a text is cut, the cut lies in the body of a line or at its end,
unless it lies inside a break. -/
theorem Lined.exists_cut {ls : List Text} (h : Lined ls) {front back : Text}
    (hcut : ls.flatten = front ++ back) (hbreak : ¬ CutsBreak front back) :
    ∃ i line k, ls[i]? = some line ∧ k ≤ (body line).length ∧
      front = (ls.take i).flatten ++ (body line).take k := by
  induction h generalizing front with
  | @last line hline =>
      have hbody : body line = line := body_eq_self hline
      have htext : line = front ++ back := by simpa using hcut
      refine ⟨0, line, front.length, rfl, ?_, ?_⟩
      · rw [hbody, htext, List.length_append]
        omega
      · rw [hbody, htext]
        simp
  | @cons first ending rest hfirst hending hwhole hrest ih =>
      have hbody : body (first ++ ending) = first := body_append hfirst hending.isBreak
      rw [List.flatten_cons, List.append_assoc] at hcut
      rcases List.append_eq_append_iff.mp hcut.symm with ⟨inner, hinner, -⟩ | ⟨more, rfl, hmore⟩
      · -- The cut lies in the body of the first line, or at its end.
        refine ⟨0, _, front.length, rfl, ?_, ?_⟩
        · rw [hbody, hinner, List.length_append]
          omega
        · rw [hbody, hinner]
          simp
      · by_cases hne : more = []
        · subst hne
          refine ⟨0, _, first.length, rfl, ?_, ?_⟩
          · exact Nat.le_of_eq (congrArg List.length hbody.symm)
          · rw [hbody]
            simp
        · -- It lies further on, so the whole first line is in front of it.
          obtain ⟨further, rfl⟩ :=
            hending.prefix_of_append_eq hmore hne fun h => hbreak (h.append_left first)
          rw [List.append_assoc, List.append_cancel_left_eq] at hmore
          have hrest_break : ¬ CutsBreak further back := fun h =>
            hbreak ((h.append_left ending).append_left first)
          obtain ⟨i, line, k, hi, hk, rfl⟩ := ih hmore hrest_break
          exact ⟨i + 1, line, k, hi, hk, by simp⟩

/-- A cut in the body of a line or at its end does not lie inside a break. -/
theorem Lined.not_cutsBreak {ls : List Text} (h : Lined ls) {i k : Nat} {line back : Text}
    (hi : ls[i]? = some line)
    (hcut : ls.flatten = ((ls.take i).flatten ++ (body line).take k) ++ back) :
    ¬ CutsBreak ((ls.take i).flatten ++ (body line).take k) back := by
  -- A body does not end in a carriage return.
  have hnobody : ((body line).take k).getLast? ≠ some '\r' := by
    intro hlast
    have hmem := List.mem_of_mem_take (List.mem_of_getLast? hlast)
    exact absurd (isBreak_of_mem_body hmem) (by decide)
  induction h generalizing i with
  | @last first hfirst =>
      obtain ⟨hlt, -⟩ := List.getElem?_eq_some_iff.mp hi
      obtain rfl : i = 0 := by simpa using hlt
      exact fun ⟨hlast, _⟩ => hnobody hlast
  | @cons first ending rest hfirst hending hwhole hrest ih =>
      cases i with
      | zero => exact fun ⟨hlast, _⟩ => hnobody hlast
      | succ i =>
          rintro ⟨hlast, hhead⟩
          simp only [List.take_succ_cons, List.flatten_cons, List.append_assoc,
            List.append_cancel_left_eq] at hcut hlast
          by_cases hnil : (rest.take i).flatten ++ (body line).take k = []
          · -- The cut lies between the first line and the next, which would have to
            -- go on with the break of the first.
            have hnext : rest.flatten = back := by
              rw [hcut, ← List.append_assoc, hnil, List.nil_append]
            rw [hnil, List.append_nil] at hlast
            cases hending with
            | crlf => simp at hlast
            | @single c hc =>
                have hreturn : c = '\r' := by simpa using hlast
                exact hwhole (by rw [hreturn]) (hnext ▸ hhead)
          · refine ih hi (by rw [List.append_assoc]; exact hcut) ⟨?_, hhead⟩
            rw [← List.append_assoc, List.getLast?_append,
              List.getLast?_eq_some_getLast hnil, Option.some_or] at hlast
            rw [List.getLast?_eq_some_getLast hnil, hlast]

end GoXref.Text
