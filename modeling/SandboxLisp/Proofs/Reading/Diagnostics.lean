import SandboxLisp.Index
import SandboxLisp.Proofs.Reading.Agreement
import SandboxLisp.Proofs.Reading.Matching

/-!
# The problems of a document are exact

The index of a document counts brackets in the tokens, and finds problems by reading expressions one
after another from the characters.  The main statement is that both agree: no problem is reported if
the brackets are balanced, and otherwise the one problem stands at the first defect.

`Reads` follows the reader over the tokens of one expression, and `Parts` the reading of all of
them.  The characters enter only through the agreement of both readers.
-/

namespace SandboxLisp

namespace Token

/-- The end of the text is the last token and no other one. -/
inductive Ended : List Token → Prop where
  | last (here : Position) : Ended [⟨.endOfInput, here⟩]
  | next {token : Token} {rest : List Token} (more : token.lexeme ≠ .endOfInput)
      (others : Ended rest) : Ended (token :: rest)

theorem classify_ne_endOfInput (spelling : List Char) : classify spelling ≠ .ok .endOfInput := by
  unfold classify
  repeat' split
  all_goals simp

theorem piece_ne_endOfInput {position : Position} {character : Char} {rest after : List Char}
    {found : Piece} (cut : piece position character rest = .ok (found, after)) :
    found.lexeme ≠ some .endOfInput := by
  unfold piece at cut
  split at cut
  · cases cut; simp
  split at cut
  · cases cut; simp
  split at cut
  · cases cut; simp
  split at cut
  · cases cut; simp
  split at cut
  · split at cut
    · cases cut
    · cases cut; simp
  split at cut
  · cases cut
  · dsimp only at cut
    split at cut
    · cases cut
    · next lexeme spelled =>
      cases cut
      intro same
      cases same
      exact classify_ne_endOfInput _ spelled

/-- Cutting a text ends with its end. -/
theorem ended_of_scan {position : Position} {text : List Char} {tokens : List Token}
    (cut : scan position text = .ok tokens) : Ended tokens := by
  fun_induction scan position text generalizing tokens with
  | case1 position =>
    cases cut
    exact .last position
  | case2 position character rest error failed => cases cut
  | case3 position character rest found after passed ih =>
    cases later : scan (position.after found.spelling) after with
    | error error =>
      rw [later] at cut
      cases cut
    | ok others =>
      rw [later] at cut
      cases cut
      have ended := ih later
      obtain ⟨lexeme, spelling⟩ := found
      cases lexeme with
      | none => exact ended
      | some lexeme =>
        apply Ended.next _ ended
        rintro rfl
        exact piece_ne_endOfInput passed rfl

variable {token : Token}

theorem isOpening_of_item? (contributes : token.lexeme.item? = some .opening) :
    token.isOpening = true := by
  obtain ⟨lexeme, position⟩ := token
  cases lexeme <;> cases contributes
  rfl

theorem isClosing_of_item? (contributes : token.lexeme.item? = some .closing) :
    token.isClosing = true := by
  obtain ⟨lexeme, position⟩ := token
  cases lexeme <;> cases contributes
  rfl

theorem isPlain_of_item? {value : Datum} (contributes : token.lexeme.item? = some (.datum value)) :
    token.isPlain = true := by
  obtain ⟨lexeme, position⟩ := token
  cases lexeme <;> cases contributes <;> rfl

theorem eq_endOfInput_of_item? (contributes : token.lexeme.item? = none) :
    token.lexeme = .endOfInput := by
  obtain ⟨lexeme, position⟩ := token
  cases lexeme <;> cases contributes
  rfl

end Token

namespace Brackets

open Reader (Complaint)
open Token

/-! ### Tokens of a text with a defect -/

/-- The tokens complete `n` expressions and then have a defect at a position: a bracket that closes
nothing, or the innermost of the lists that are still open at the end. -/
inductive Defective (n : Nat) (tokens : List Token) : Position → Prop where
  | closing {body rest : List Token} {closing : Token} (split : tokens = body ++ closing :: rest)
      (closes : closing.isClosing = true) (whole : Sequence body n) :
      Defective n tokens closing.position
  | opening {outer pending inner : List Token} {opening : Token} {here : Position} {m : Nat}
      (split : tokens = outer ++ opening :: (inner ++ [⟨.endOfInput, here⟩]))
      (opens : opening.isOpening = true) (outside : Nested n outer pending)
      (whole : Sequence inner m) : Defective n tokens opening.position

/-- The end of the text is no part of a balanced row. -/
theorem Sequence.balanced_concat {tokens : List Token} {n : Nat} (whole : Sequence tokens n)
    (here : Position) : Balanced (tokens ++ [⟨.endOfInput, here⟩]) where
  prefixes before inside := by
    rcases List.prefix_concat_iff.mp inside with rfl | within
    · simp [List.countP_append, isOpening, isClosing, whole.total]
    · exact whole.prefixes within
  total := by simp [List.countP_append, isOpening, isClosing, whole.total]

/-- A place is that of the first defect of the tokens, and `n` expressions are completed before. -/
def DefectAt (n : Nat) (tokens : List Token) (position : Position) : Prop :=
  ∃ before token after, tokens = before ++ token :: after ∧ token.position = position ∧
    FirstDefect before token after ∧ completed 0 before = n

theorem Defective.defectAt {n : Nat} {tokens : List Token} {position : Position}
    (defective : Defective n tokens position) : DefectAt n tokens position := by
  cases defective with
  | @closing body rest closing split closes whole =>
    have counted : completed 0 body = n := by simpa [completed] using whole.completed_append 0 []
    have unmatched := whole.balanced.not_hasOpening
    have first := whole.closings_matched
    exact ⟨body, closing, rest, split, rfl, .closing closes unmatched first, counted⟩
  | @opening outer pending inner opening here m split opens outside whole =>
    have counted : completed 0 outer = n := by simpa [completed] using outside.completed_append []
    have unmatched : ¬ HasClosing (inner ++ [⟨.endOfInput, here⟩]) :=
      whole.balanced.not_hasClosing rfl
    have last : OpeningsMatched (inner ++ [⟨.endOfInput, here⟩]) :=
      whole.openings_matched.concat rfl
    have closings : ClosingsMatched ((outer ++ opening :: inner) ++ [⟨.endOfInput, here⟩]) :=
      (Nested.inside outside opens whole).closings_matched.concat rfl
    rw [List.append_assoc, List.cons_append] at closings
    exact ⟨outer, opening, _, split, rfl, .opening opens unmatched last closings, counted⟩

theorem Defective.not_balanced {n : Nat} {tokens : List Token} {position : Position}
    (defective : Defective n tokens position) : ¬ Balanced tokens := by
  intro balanced
  cases defective with
  | @closing body rest closing split closes whole =>
    have count := balanced.prefixes (body ++ [closing]) ⟨rest, by simp [split]⟩
    have total := whole.total
    simp only [List.countP_append, List.countP_singleton, closes,
      not_isOpening_of_isClosing closes] at count
    simp at count
    omega
  | @opening outer pending inner opening here m split opens outside whole =>
    have total := balanced.total
    have opened := (Nested.inside outside opens whole).total
    have ended : tokens = (outer ++ opening :: inner) ++ [⟨.endOfInput, here⟩] := by simp [split]
    generalize outer ++ opening :: inner = before at opened ended
    rw [ended, List.countP_append, List.countP_append, opened] at total
    simp [isOpening, isClosing] at total

/-! ### Reading tokens -/

/-- What reading one expression comes to when tokens that complete `n` expressions are passed. -/
inductive Reads (n : Nat) (passed tokens : List Token) :
    Except Complaint (Datum × List Token) → Prop where
  | value {value : Datum} {used rest : List Token} (split : tokens = used ++ rest)
      (whole : Sequence (passed ++ used) (n + 1)) : Reads n passed tokens (.ok (value, rest))
  | failure {complaint : Complaint}
      (defective : Defective n (passed ++ tokens) complaint.position) :
      Reads n passed tokens (.error complaint)

/-- What follows a token that is passed. -/
theorem Reads.pass {n : Nat} {passed rest : List Token} {token : Token}
    {outcome : Except Complaint (Datum × List Token)}
    (reads : Reads n (passed ++ [token]) rest outcome) :
    Reads n passed (token :: rest) outcome := by
  cases reads with
  | @value value used rest split whole =>
    rw [List.append_assoc] at whole
    exact .value (congrArg (token :: ·) split) whole
  | failure defective =>
    rw [List.append_assoc] at defective
    exact .failure defective

theorem expression_reads {n : Nat} {passed openings tokens : List Token} {pending : List Opened}
    (nested : Nested n passed openings)
    (same : pending.map Opened.position = openings.map Token.position) (ended : Ended tokens)
    (more : openings = [] → ∀ here, tokens ≠ [⟨.endOfInput, here⟩]) :
    Reads n passed tokens (expression pending tokens) := by
  fun_induction expression pending tokens generalizing openings passed with
  | case1 => cases ended
  | case2 token rest contributes =>
    cases openings with
    | cons opening openings => simp at same
    | nil =>
      cases ended with
      | last here => exact (more rfl here rfl).elim
      | next notEnd _ => exact (notEnd (eq_endOfInput_of_item? contributes)).elim
  | case3 token rest innermost outer contributes =>
    cases ended with
    | next notEnd _ => exact (notEnd (eq_endOfInput_of_item? contributes)).elim
    | last here =>
      cases nested with
      | flat whole => simp at same
      | @inside outside pending inner opening m around opens whole =>
        rw [List.map_cons, List.map_cons] at same
        obtain ⟨place, -⟩ := List.cons.inj same
        have split : (outside ++ opening :: inner) ++ [⟨.endOfInput, here⟩] =
            outside ++ opening :: (inner ++ [⟨.endOfInput, here⟩]) := by simp
        apply Reads.failure
        dsimp only
        rw [place]
        exact .opening split opens around whole
  | case4 pending token rest contributes ih =>
    cases ended with
    | last here => cases contributes
    | next _ others =>
      have opens := isOpening_of_item? contributes
      refine (ih (nested.push opens) ?_ others (by simp)).pass
      simp [same]
  | case5 token rest contributes =>
    cases openings with
    | cons opening openings => simp at same
    | nil =>
      exact .failure (.closing rfl (isClosing_of_item? contributes) nested.sequence)
  | case6 token rest outermost contributes =>
    cases openings with
    | nil => simp at same
    | cons opening openings =>
      obtain rfl : openings = [] := by
        simp only [List.map_cons, List.map_nil, List.cons.injEq] at same
        exact List.map_eq_nil_iff.mp same.2.symm
      have popped := nested.pop (isClosing_of_item? contributes)
      exact .value List.singleton_append.symm popped.sequence
  | case7 token rest innermost next outer contributes ih =>
    cases openings with
    | nil => simp at same
    | cons opening openings =>
      cases openings with
      | nil => simp at same
      | cons second openings =>
        cases ended with
        | last here => cases contributes
        | next _ others =>
          have popped := nested.pop (isClosing_of_item? contributes)
          rw [if_neg (List.cons_ne_nil _ _)] at popped
          refine (ih popped ?_ others (by simp)).pass
          simp only [List.map_cons, List.cons.injEq] at same ⊢
          exact same.2
  | case8 token rest value contributes =>
    cases openings with
    | cons opening openings => simp at same
    | nil =>
      have longer := nested.append (.atom (isPlain_of_item? contributes) .nil)
      exact .value List.singleton_append.symm longer.sequence
  | case9 token rest value innermost outer contributes ih =>
    cases openings with
    | nil => simp at same
    | cons opening openings =>
      cases ended with
      | last here => cases contributes
      | next _ others =>
        have longer := nested.append (.atom (isPlain_of_item? contributes) .nil)
        rw [if_neg (List.cons_ne_nil _ _)] at longer
        exact (ih longer same others (by simp)).pass

end Brackets

/-! ### Reading all expressions -/

namespace Index

open Brackets Token

/-- What reading all expressions comes to behind tokens that complete `n` of them. -/
inductive Parts (text : List Char) (n : Nat) (passed tokens : List Token) :
    Nat × Option Reader.Failure → Prop where
  | complete {forms : Nat} {used : List Token} {here : Position}
      (split : tokens = used ++ [⟨.endOfInput, here⟩])
      (whole : Sequence (passed ++ used) (n + forms)) : Parts text n passed tokens (forms, none)
  | defective {forms : Nat} {failure : Reader.Failure} {complaint : Reader.Complaint}
      (located : (failure.locate text).complaint? = some complaint)
      (defective : Defective (n + forms) (passed ++ tokens) complaint.position) :
      Parts text n passed tokens (forms, some failure)

/-- Tokens that are passed, and what is found behind them. -/
theorem Parts.pass {text : List Char} {n forms : Nat} {passed used rest : List Token}
    {failure : Option Reader.Failure}
    (parts : Parts text (n + 1) (passed ++ used) rest (forms, failure)) :
    Parts text n passed (used ++ rest) (forms + 1, failure) := by
  cases parts with
  | @complete _ more here split whole =>
    rw [List.append_assoc, Nat.add_assoc, Nat.add_comm 1] at whole
    exact .complete (by rw [split, List.append_assoc]) whole
  | defective located defective =>
    rw [List.append_assoc, Nat.add_assoc, Nat.add_comm 1] at defective
    exact .defective located defective

/-- Where something is left to read, reading one expression follows the tokens. -/
theorem expression_reads_from {text rest behind : List Char} {character : Char}
    {position : Position} {n : Nat} {passed tokens : List Token} (marks : position.Marks text rest)
    (skipped : Reader.skipGap false rest = character :: behind)
    (cut : scan position rest = .ok tokens) (whole : Sequence passed n) :
    Reads n passed tokens (expression [] tokens) := by
  apply expression_reads (.flat whole) rfl (ended_of_scan cut)
  rintro - here rfl
  rcases behind_agrees marks cut with ⟨none, -⟩ | ⟨_, _, token, others, -, split, notEnd, -⟩
  · rw [skipped] at none
    cases none
  · cases split
    exact notEnd rfl

theorem readAll_parts {text rest : List Char} {position : Position} {n : Nat}
    {passed tokens : List Token} (marks : position.Marks text rest)
    (cut : scan position rest = .ok tokens) (whole : Sequence passed n) :
    Parts text n passed tokens (readAll rest) := by
  fun_induction readAll rest generalizing position n passed tokens with
  | case1 rest skipped =>
    obtain ⟨here, -, last⟩ := scan_end marks skipped
    rw [cut] at last
    cases last
    have unchanged : Sequence (passed ++ []) (n + 0) := by rwa [List.append_nil]
    exact .complete (List.nil_append _).symm unchanged
  | case2 rest character behind skipped failure failed =>
    have agree := expression_agrees marks .nil cut
    have reads := expression_reads_from marks skipped cut whole
    rw [failed] at agree
    generalize expression [] tokens = outcome at agree reads
    cases agree with
    | failure located =>
      cases reads with
      | failure defective => exact .defective located defective
  | case3 rest character behind skipped value after read forms failure later ih =>
    have agree := expression_agrees marks .nil cut
    have reads := expression_reads_from marks skipped cut whole
    rw [read] at agree
    generalize expression [] tokens = outcome at agree reads
    cases agree with
    | value place next =>
      cases reads with
      | value split longer =>
        rw [later] at ih
        rw [split]
        exact (ih place next longer).pass

/-! ### The index -/

/-- The balance of an index counts the brackets of either kind. -/
theorem balanceOf_eq (tokens : List Token) :
    balanceOf tokens = (tokens.countP isOpening : Int) - tokens.countP isClosing := by
  induction tokens with
  | nil => rfl
  | cons token rest ih =>
    obtain ⟨lexeme, position⟩ := token
    cases lexeme <;> simp [balanceOf, ih, isOpening, isClosing] <;> omega

/-- What the index of a text with given tokens says about its brackets. -/
structure Diagnosed (tokens : List Token) (index : Index) : Prop where
  balance : index.balance = (tokens.countP isOpening : Int) - tokens.countP isClosing
  exact : index.problems = [] ↔ Balanced tokens
  forms : Balanced tokens → index.forms = completed 0 tokens
  problem : ¬ Balanced tokens → ∃ message position,
    index.problems = [⟨message, position, .error⟩] ∧ DefectAt index.forms tokens position

/-- Every text that can be cut has an index; it is without problems if reading ends without a
failure, and what it says is exact. -/
theorem build_of_tokens {text : List Char} {tokens : List Token}
    (cut : tokenize text = .ok tokens) :
    ∃ index, build text = .ok index ∧ Diagnosed tokens index ∧
      index.forms = (readAll text).1 ∧ (index.problems = [] ↔ (readAll text).2 = none) := by
  have parts : Parts text 0 [] tokens (readAll text) :=
    readAll_parts (Position.Marks.start text) cut .nil
  unfold build
  rw [cut]
  dsimp only
  generalize readAll text = outcome at parts ⊢
  cases parts with
  | @complete forms used here split whole =>
    rw [List.nil_append, Nat.zero_add] at whole
    have balanced : Balanced tokens := split ▸ whole.balanced_concat here
    have level : balanceOf tokens = 0 := by
      rw [balanceOf_eq, balanced.total, Int.sub_self]
    have counted : completed 0 tokens = forms := by
      rw [split, whole.completed_append]
      simp [completed, isOpening, isClosing, isPlain]
    simp only [problemsOf, level, if_true]
    refine ⟨_, rfl, ⟨?_, by simpa using balanced, fun _ => counted.symm, ?_⟩, rfl, by simp⟩
    · exact level.symm.trans (balanceOf_eq tokens)
    · exact fun unbalanced => (unbalanced balanced).elim
  | @defective forms failure complaint located defective =>
    rw [List.nil_append, Nat.zero_add] at defective
    have unbalanced := defective.not_balanced
    cases error : failure.locate text with
    | number error =>
      rw [error, Reader.Error.complaint?] at located
      cases located
    | malformed cause position =>
      rw [error, Reader.Error.complaint?] at located
      cases located
      simp only [problemsOf, error]
      refine ⟨_, rfl, ⟨balanceOf_eq tokens, by simpa using unbalanced, ?_, ?_⟩, rfl, by simp⟩
      · exact fun balanced => (unbalanced balanced).elim
      · exact fun _ => ⟨_, _, rfl, defective.defectAt⟩

/-- The text can be cut from one place on if it can be cut from another one on. -/
def CutFrom (text rest after : List Char) : Prop :=
  ∀ position : Position, position.Marks text rest → ∃ place : Position, place.Marks text after ∧
    ∀ others, scan place after = .ok others → ∃ tokens, scan position rest = .ok tokens

theorem CutFrom.trans {text rest between after : List Char} (one : CutFrom text rest between)
    (other : CutFrom text between after) : CutFrom text rest after := by
  intro position marks
  obtain ⟨middle, marksMiddle, firstCut⟩ := one position marks
  obtain ⟨place, marksPlace, secondCut⟩ := other middle marksMiddle
  refine ⟨place, marksPlace, fun others cut => ?_⟩
  obtain ⟨tokens, cutMiddle⟩ := secondCut others cut
  exact firstCut tokens cutMiddle

/-- Before an item that can be read a text can be cut if it can be cut behind the item. -/
theorem cutFrom_of_item {text rest behind after : List Char} {character : Char}
    {found : Reader.Item} (skipped : Reader.skipGap false rest = character :: behind)
    (read : Reader.item character behind = .ok (found, after)) : CutFrom text rest after := by
  intro position marks
  obtain ⟨lexeme, here, there, -, -, place, same⟩ := exists_token_of_item marks skipped read
  refine ⟨there, place, fun others cut => ?_⟩
  rw [cut] at same
  exact ⟨_, same⟩

theorem cutFrom_of_expression {text rest after : List Char} {stack : List Reader.OpenList}
    {value : Datum} (read : Reader.expression stack rest = .ok (value, after)) :
    CutFrom text rest after := by
  fun_induction Reader.expression stack rest with
  | case1 => cases read
  | case2 => cases read
  | case3 => cases read
  | case4 stack rest character behind skipped left found ih =>
    exact (cutFrom_of_item skipped found).trans (ih read)
  | case5 => cases read
  | case6 rest character behind skipped left found outermost =>
    cases read
    exact cutFrom_of_item skipped found
  | case7 rest character behind skipped left found innermost next outer ih =>
    exact (cutFrom_of_item skipped found).trans (ih read)
  | case8 rest character behind skipped item left found =>
    cases read
    exact cutFrom_of_item skipped found
  | case9 rest character behind skipped item left found innermost outer ih =>
    exact (cutFrom_of_item skipped found).trans (ih read)

/-- A text is one expression if that is read and nothing but a gap follows. -/
theorem parse_ok_iff (text : List Char) :
    (∃ value, Reader.parse text = .ok value) ↔
      ∃ value after, Reader.expression [] text = .ok (value, after) ∧
        Reader.skipGap false after = [] := by
  unfold Reader.parse
  constructor
  · rintro ⟨value, parsed⟩
    split at parsed
    · cases parsed
    · next value after read =>
      split at parsed
      · next last => exact ⟨value, after, read, last⟩
      · cases parsed
  · rintro ⟨value, after, read, last⟩
    exact ⟨value, by simp [read, last]⟩

/-- Reading finds no expression and no failure in a gap only. -/
theorem readAll_eq_zero_iff (text : List Char) :
    readAll text = (0, none) ↔ Reader.skipGap false text = [] := by
  fun_cases readAll text with
  | case1 skipped => simp [skipped]
  | case2 character behind skipped failure failed => simp [skipped]
  | case3 character behind skipped value after read forms failure later => simp [skipped]

theorem readAll_eq_one_iff (text : List Char) :
    readAll text = (1, none) ↔ ∃ value after, Reader.expression [] text = .ok (value, after) ∧
      Reader.skipGap false after = [] := by
  fun_cases readAll text with
  | case1 skipped =>
    have failed : Reader.expression [] text = .error (.malformed .unexpectedEnd []) := by
      rw [Reader.expression]
      split
      · rfl
      · next something => rw [skipped] at something; cases something
    simp [failed]
  | case2 character behind skipped failure failed => simp [failed]
  | case3 character behind skipped value after read forms failure later =>
    simp [read, ← readAll_eq_zero_iff, later]

/-- A text that is one expression can be cut into tokens. -/
theorem exists_tokens_of_parse {text : List Char} {value : Datum}
    (parsed : Reader.parse text = .ok value) : ∃ tokens, tokenize text = .ok tokens := by
  obtain ⟨value, after, read, last⟩ := (parse_ok_iff text).mp ⟨value, parsed⟩
  obtain ⟨place, marks, cut⟩ := cutFrom_of_expression read .start (Position.Marks.start text)
  obtain ⟨here, -, ended⟩ := scan_end marks last
  exact cut _ ended

/-- Problems are errors: there is no text about whose brackets the index only warns. -/
theorem severity_of_build {text : List Char} {index : Index} (built : build text = .ok index)
    {problem : Problem} (listed : problem ∈ index.problems) : problem.severity = .error := by
  cases cut : tokenize text with
  | ok tokens =>
    obtain ⟨found, builtFound, diagnosed, -, -⟩ := build_of_tokens cut
    cases built.symm.trans builtFound
    by_cases balanced : Balanced tokens
    · rw [diagnosed.exact.mpr balanced] at listed
      cases listed
    · obtain ⟨message, position, only, -⟩ := diagnosed.problem balanced
      rw [only, List.mem_singleton] at listed
      rw [listed]
  | error error =>
    unfold build at built
    rw [cut] at built
    cases error with
    | lexical cause position =>
      cases built
      rw [List.mem_singleton] at listed
      rw [listed]
    | number error => cases built

/-- The diagnostics of a document are exact.  Of every text that can be cut into tokens the index
gives the balance of its brackets; it has no problem if they are balanced, and otherwise one, an
error at the first defect, with the number of expressions that are completed before.  No text leads
to a warning, and a text is one expression if its index has no problem and counts one. -/
theorem build_diagnoses (text : List Char) :
    (∀ tokens, tokenize text = .ok tokens → ∃ index, build text = .ok index ∧
      Diagnosed tokens index) ∧
    (∀ index, build text = .ok index → ∀ problem ∈ index.problems, problem.severity = .error) ∧
    ((∃ value, Reader.parse text = .ok value) ↔
      ∃ index, build text = .ok index ∧ index.problems = [] ∧ index.forms = 1) := by
  refine ⟨?_, fun index built problem listed => severity_of_build built listed, ?_, ?_⟩
  · intro tokens cut
    obtain ⟨index, built, diagnosed, -, -⟩ := build_of_tokens cut
    exact ⟨index, built, diagnosed⟩
  · rintro ⟨value, parsed⟩
    obtain ⟨tokens, cut⟩ := exists_tokens_of_parse parsed
    obtain ⟨index, built, -, forms, problems⟩ := build_of_tokens cut
    have one := (readAll_eq_one_iff text).mpr ((parse_ok_iff text).mp ⟨value, parsed⟩)
    rw [one] at forms problems
    exact ⟨index, built, problems.mpr rfl, forms⟩
  · rintro ⟨index, built, noProblem, one⟩
    rw [parse_ok_iff, ← readAll_eq_one_iff]
    cases cut : tokenize text with
    | ok tokens =>
      obtain ⟨found, builtFound, -, forms, problems⟩ := build_of_tokens cut
      cases built.symm.trans builtFound
      exact Prod.ext (forms.symm.trans one) (problems.mp noProblem)
    | error error =>
      unfold build at built
      rw [cut] at built
      cases error with
      | lexical cause position =>
        cases built
        cases noProblem
      | number error => cases built

/-- The document `(a)` with one closing bracket too many on the next line. -/
def surplusText : List Char := ['(', 'a', ')', '\n', ')']

/-- The tokens of that document. -/
def surplusTokens : List Token :=
  [⟨.leftParen, ⟨1, 1⟩⟩, ⟨.symbol "a", ⟨1, 2⟩⟩, ⟨.rightParen, ⟨1, 3⟩⟩, ⟨.rightParen, ⟨2, 1⟩⟩,
    ⟨.endOfInput, ⟨2, 2⟩⟩]

/-- The index of that document. -/
def surplusIndex : Index :=
  ⟨[], [⟨"Unexpected character ')'", ⟨2, 1⟩, .error⟩], -1, 1⟩

/-- The second closing bracket is the one problem, and one expression is completed before it. -/
theorem build_diagnoses_surplus :
    (tokenize surplusText = .ok surplusTokens ∧
      ∃ index, build surplusText = .ok index ∧ Diagnosed surplusTokens index) ∧
    build surplusText = .ok surplusIndex ∧
      ∀ problem ∈ surplusIndex.problems, problem.severity = .error := by
  have cut : tokenize surplusText = .ok surplusTokens := by decide +kernel
  have built : build surplusText = .ok surplusIndex := by decide +kernel
  obtain ⟨exact, severe, -⟩ := build_diagnoses surplusText
  exact ⟨⟨cut, exact surplusTokens cut⟩, built, severe surplusIndex built⟩

end Index

end SandboxLisp
