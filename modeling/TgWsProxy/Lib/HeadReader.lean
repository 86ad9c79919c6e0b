import Mathlib.Data.List.DropRight
import Mathlib.Data.List.Forall2

/-!
# Heads which are read line by line

A head is a number of lines, of which a judge says whether to keep them, and
the line at which the judge stops.  What stands behind that line is left in the
stream.
-/

namespace Lib

variable {Item Line Error : Type} [DecidableEq Item]

def lineSize (ending : Item) (items : List Item) : Nat :=
  (items.takeWhile (· ≠ ending)).length + 1

/-- The first line with its ending, or all there is. -/
def nextLine (ending : Item) (items : List Item) : List Item :=
  items.take (lineSize ending items)

def behindLine (ending : Item) (items : List Item) : List Item :=
  items.drop (lineSize ending items)

inductive LineVerdict (Line Error : Type) where
  | stop
  | keep (line : Line)
  | fail (error : Error)

/-- What a loop does about a verdict. -/
def LineVerdict.followed {Result : Type} (verdict : LineVerdict Line Error)
    (stopped : Result) (kept : Line → Except Error Result) :
    Except Error Result :=
  match verdict with
  | .stop => .ok stopped
  | .keep line => kept line
  | .fail error => .error error

theorem length_behindLine {items : List Item} (ending : Item)
    (goesOn : items ≠ []) :
    (behindLine ending items).length < items.length := by
  have filled := List.length_pos_iff.mpr goesOn
  rw [behindLine, List.length_drop, lineSize]
  omega

/-- The lines which are kept, and what is left of the stream.  The judge sees
the number of a line and the line with its ending; at the end of the stream it
sees an empty line, and no other is read. -/
def readHead (ending : Item) (judge : Nat → List Item → LineVerdict Line Error)
    (count : Nat) (items : List Item) : Except Error (List Line × List Item) :=
  match judge count (nextLine ending items) with
  | .stop => .ok ([], behindLine ending items)
  | .fail error => .error error
  | .keep line =>
      if items = [] then .ok ([line], [])
      else
        match readHead ending judge (count + 1) (behindLine ending items) with
        | .ok (lines, rest) => .ok (line :: lines, rest)
        | .error error => .error error
termination_by items.length
decreasing_by exact length_behindLine ending (by assumption)

/-- Lines of a stream, each with its ending. -/
def endLines (ending : Item) (texts : List (List Item)) : List Item :=
  (texts.map (· ++ [ending])).flatten

section Lines

variable {ending : Item} {items text behind rest : List Item}
  {judge : Nat → List Item → LineVerdict Line Error}

theorem lineSize_text (oneLine : ending ∉ text) (behind : List Item) :
    lineSize ending (text ++ ending :: behind) = text.length + 1 := by
  have upToEnd : (text ++ ending :: behind).takeWhile (· ≠ ending) = text := by
    rw [List.takeWhile_append_of_pos]
    · simp
    · intro item member
      rw [decide_eq_true_iff]
      rintro rfl
      exact oneLine member
  rw [lineSize, upToEnd]

theorem nextLine_text (oneLine : ending ∉ text) (behind : List Item) :
    nextLine ending (text ++ ending :: behind) = text ++ [ending] := by
  rw [nextLine, lineSize_text oneLine, List.append_cons, List.take_left']
  simp

theorem behindLine_text (oneLine : ending ∉ text) (behind : List Item) :
    behindLine ending (text ++ ending :: behind) = behind := by
  rw [behindLine, lineSize_text oneLine, List.append_cons, List.drop_left']
  simp

omit [DecidableEq Item] in
theorem endLines_cons (text : List Item) (texts : List (List Item)) :
    endLines ending (text :: texts) =
      text ++ ending :: endLines ending texts := by
  simp [endLines]

/-- Lines which the judge keeps are read back up to the line at which it
stops. -/
theorem readHead_endLines {texts : List (List Item)} {lines : List Line}
    {blank : List Item}
    (kept : List.Forall₂ (fun text line => ending ∉ text ∧
      ∀ count, judge count (text ++ [ending]) = .keep line) texts lines)
    (blankLine : ending ∉ blank)
    (stops : ∀ count, judge count (blank ++ [ending]) = .stop)
    (count : Nat) (behind : List Item) :
    readHead ending judge count
        (endLines ending texts ++ (blank ++ ending :: behind)) =
      .ok (lines, behind) := by
  induction kept generalizing count with
  | nil =>
      rw [endLines, List.map_nil, List.flatten_nil, List.nil_append, readHead,
        nextLine_text blankLine, behindLine_text blankLine]
      simp only [stops]
  | @cons text line texts lines here later induction =>
      have filled : text ++ ending ::
          (endLines ending texts ++ (blank ++ ending :: behind)) ≠ [] := by
        simp
      rw [endLines_cons, List.append_assoc, List.cons_append, readHead,
        nextLine_text here.1, behindLine_text here.1]
      simp only [here.2, if_neg filled, induction]

variable (ending judge) in
/-- A loop which collects the lines the judge keeps reads a head. -/
theorem loop_eq_readHead {Result : Type}
    (loop : List Line → List Item → Except Error Result)
    (finish : List Line → List Item → Result)
    (pass : ∀ lines items, loop lines items =
      (judge lines.length (nextLine ending items)).followed
        (finish lines (behindLine ending items))
        fun line => loop (lines ++ [line]) (behindLine ending items))
    (ends : ∀ count line, judge count [] ≠ .keep line)
    (lines : List Line) (items : List Item) :
    loop lines items =
      (readHead ending judge lines.length items).map
        fun read => finish (lines ++ read.1) read.2 := by
  induction items using (measure List.length).wf.induction
    generalizing lines with
  | h items induction =>
      rw [pass, readHead]
      cases judged : judge lines.length (nextLine ending items) with
      | stop => simp [LineVerdict.followed, Except.map]
      | fail error => rfl
      | keep line =>
          have goesOn : items ≠ [] := by
            intro empty
            rw [empty] at judged
            exact ends _ line judged
          have later := induction (behindLine ending items)
            (length_behindLine ending goesOn) (lines ++ [line])
          simp only [LineVerdict.followed, later, if_neg goesOn,
            List.length_append, List.length_singleton]
          cases readHead ending judge (lines.length + 1)
              (behindLine ending items) with
          | ok result => simp [Except.map]
          | error error => rfl

/-- The first line which is kept is the first of the stream. -/
theorem readHead_first {first : Line} {others : List Line} {count : Nat}
    (read : readHead ending judge count items = .ok (first :: others, rest)) :
    judge count (nextLine ending items) = .keep first := by
  rw [readHead] at read
  cases judged : judge count (nextLine ending items) with
  | stop =>
      rw [judged] at read
      cases read
  | fail error =>
      rw [judged] at read
      cases read
  | keep line =>
      rw [judged] at read
      by_cases ended : items = []
      · simp only [if_pos ended] at read
        cases read
        rfl
      · simp only [if_neg ended] at read
        cases later : readHead ending judge (count + 1)
            (behindLine ending items) with
        | error error =>
            rw [later] at read
            cases read
        | ok result =>
            rw [later] at read
            cases read
            rfl

omit [DecidableEq Item] in
/-- What is behind the first blank line of the stream, or nothing if the stream
ends before there is one. -/
def BehindBlank (ending : Item) (IsBlank : List Item → Prop)
    (items rest : List Item) : Prop :=
  ∃ texts last,
    (∀ text ∈ texts, ending ∉ text ∧ ¬ IsBlank (text ++ [ending])) ∧
    ending ∉ last ∧
    (items = endLines ending texts ++ (last ++ ending :: rest) ∧
        IsBlank (last ++ [ending]) ∨
      items = endLines ending texts ++ last ∧ rest = [])

omit [DecidableEq Item] in
theorem BehindBlank.cons {IsBlank : List Item → Prop} (oneLine : ending ∉ text)
    (filled : ¬ IsBlank (text ++ [ending]))
    (later : BehindBlank ending IsBlank items rest) :
    BehindBlank ending IsBlank (text ++ ending :: items) rest := by
  obtain ⟨texts, last, lines, lastLine, found⟩ := later
  refine ⟨text :: texts, last, ?_, lastLine, ?_⟩
  · intro line member
    rcases List.mem_cons.mp member with rfl | member
    · exact ⟨oneLine, filled⟩
    · exact lines line member
  · simp only [endLines_cons, List.append_assoc, List.cons_append]
    rcases found with ⟨rfl, blank⟩ | ⟨rfl, none⟩
    · exact .inl ⟨rfl, blank⟩
    · exact .inr ⟨rfl, none⟩

/-- The last line has no ending. -/
theorem nextLine_unended (unended : ending ∉ items) :
    nextLine ending items = items ∧ behindLine ending items = [] := by
  have upToEnd : items.takeWhile (· ≠ ending) = items := by
    apply List.takeWhile_eq_self_iff.mpr
    intro item member
    rw [decide_eq_true_iff]
    rintro rfl
    exact unended member
  rw [nextLine, behindLine, lineSize, upToEnd]
  exact ⟨List.take_of_length_le (Nat.le_succ _),
    List.drop_of_length_le (Nat.le_succ _)⟩

theorem readHead_nil {lines : List Line} {count : Nat}
    (read : readHead ending judge count [] = .ok (lines, rest)) :
    rest = [] := by
  rw [readHead] at read
  cases judged : judge count (nextLine ending []) with
  | stop =>
      rw [judged] at read
      cases read
      rfl
  | fail error =>
      rw [judged] at read
      cases read
  | keep line =>
      rw [judged] at read
      simp only [if_true] at read
      cases read
      rfl

/-- Nothing is left of a stream whose end cuts its line short. -/
theorem readHead_unended {lines : List Line} {count : Nat}
    (unended : ending ∉ items)
    (read : readHead ending judge count items = .ok (lines, rest)) :
    rest = [] := by
  obtain ⟨-, behind⟩ := nextLine_unended unended
  rw [readHead, behind] at read
  cases judged : judge count (nextLine ending items) with
  | stop =>
      rw [judged] at read
      cases read
      rfl
  | fail error =>
      rw [judged] at read
      cases read
  | keep line =>
      rw [judged] at read
      by_cases ended : items = []
      · simp only [if_pos ended] at read
        cases read
        rfl
      · simp only [if_neg ended] at read
        cases later : readHead ending judge (count + 1) [] with
        | error error =>
            rw [later] at read
            cases read
        | ok result =>
            rw [later] at read
            cases read
            exact readHead_nil later

/-- A judge which stops at the blank lines, and at the end of the stream, leaves
what is behind the first of them. -/
theorem readHead_behindBlank {IsBlank : List Item → Prop} {lines : List Line}
    {count : Nat}
    (stops : ∀ count line, judge count line = .stop → line ≠ [] → IsBlank line)
    (keeps : ∀ count line kept, judge count line = .keep kept → ¬ IsBlank line)
    (read : readHead ending judge count items = .ok (lines, rest)) :
    BehindBlank ending IsBlank items rest := by
  induction items using (measure List.length).wf.induction
    generalizing count lines with
  | h items induction =>
      by_cases inside : ending ∈ items
      · obtain ⟨text, behind, rfl, oneLine⟩ := List.eq_append_cons_of_mem inside
        have shorter := length_behindLine ending (List.ne_nil_of_mem inside)
        rw [behindLine_text oneLine] at shorter
        rw [readHead, nextLine_text oneLine, behindLine_text oneLine] at read
        cases judged : judge count (text ++ [ending]) with
        | stop =>
            rw [judged] at read
            cases read
            have blank := stops count _ judged (by simp)
            exact ⟨[], text, nofun, oneLine, .inl ⟨rfl, blank⟩⟩
        | fail error =>
            rw [judged] at read
            cases read
        | keep line =>
            simp only [judged, if_neg (List.ne_nil_of_mem inside)] at read
            cases later : readHead ending judge (count + 1) behind with
            | error error =>
                rw [later] at read
                cases read
            | ok result =>
                rw [later] at read
                cases read
                exact (induction behind shorter later).cons oneLine
                  (keeps count _ line judged)
      · exact ⟨[], items, nofun, inside,
          .inr ⟨rfl, readHead_unended inside read⟩⟩

end Lines

section Pieces

variable {α : Type*} {separator : α → Bool} {word rest : List α}

/-- The pieces between the first few separators, and what is behind them. -/
def splitAtMost (separator : α → Bool) : Nat → List α → List (List α)
  | 0, text => [text]
  | cuts + 1, text =>
      match text.dropWhile (! separator ·) with
      | [] => [text]
      | _ :: rest =>
          text.takeWhile (! separator ·) :: splitAtMost separator cuts rest

theorem splitAtMost_whole (whole : ∀ char ∈ word, separator char = false)
    (cuts : Nat) : splitAtMost separator cuts word = [word] := by
  cases cuts with
  | zero => rfl
  | succ cuts =>
      have none : word.dropWhile (! separator ·) = [] := by
        apply List.dropWhile_eq_nil_iff.mpr
        intro char member
        rw [whole char member]
        rfl
      rw [splitAtMost, none]

theorem splitAtMost_cons (whole : ∀ char ∈ word, separator char = false)
    {cut : α} (cuts : separator cut = true) (count : Nat) (rest : List α) :
    splitAtMost separator (count + 1) (word ++ cut :: rest) =
      word :: splitAtMost separator count rest := by
  have inside : ∀ char ∈ word, (! separator char) = true := by
    intro char member
    rw [whole char member]
    rfl
  have outside : (cut :: rest).dropWhile (! separator ·) = cut :: rest := by
    apply List.dropWhile_cons_of_neg
    rw [cuts]
    exact Bool.false_ne_true
  have upToCut : (cut :: rest).takeWhile (! separator ·) = [] := by
    apply List.takeWhile_cons_of_neg
    rw [cuts]
    exact Bool.false_ne_true
  rw [splitAtMost, List.dropWhile_append_of_pos inside, outside,
    List.takeWhile_append_of_pos inside, upToCut, List.append_nil]

end Pieces

end Lib
