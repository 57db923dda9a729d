import SandboxLisp.Editor
import SandboxLisp.Proofs.Reading.Cutting
import SandboxLisp.Proofs.Reading.Diagnostics

/-!
# Documents after a history of events

Documents are opened, changed and closed one event after another.  An event with a text takes effect
unless cutting the text reaches an integer numeral of too many digits; then it fails and leaves the
editor as it was.  The main statement is that this is the only way to fail, that every other defect
of a text is among the problems of its index, and that after any history the editor answers at an
address from the text of the last event that took effect there (`history_documents`).
-/

namespace SandboxLisp

/-- ASCII digits are an integer numeral of too many digits if there are more than the limit. -/
theorem Numeral.overlong_of_isDigit {spelling : List Char}
    (digits : ∀ c ∈ spelling, c.isDigit = true)
    (long : NumberError.digitLimit < spelling.length) : Overlong spelling spelling.length := by
  have something : spelling ≠ [] := by
    rintro rfl
    cases long
  let numeral : Spelling := ⟨spelling, none, none, something, digits, by simp⟩
  have text : numeral.signed false = spelling := List.append_nil spelling
  have scanned := numeral.scan?_signed false
  rw [text] at scanned
  exact ⟨_, scanned, rfl, length_digitsOf spelling, long⟩

/-- A text of ASCII digits only, more than the limit, reaches an overlong numeral. -/
theorem Token.reachesOverlong_of_isDigit {text : List Char} (digits : ∀ c ∈ text, c.isDigit = true)
    (long : NumberError.digitLimit < text.length) : ReachesOverlong text text.length := by
  have something : text ≠ [] := by
    rintro rfl
    cases long
  have plain : ∀ c ∈ text, Atom.isDelimiter c = false :=
    fun c among => Atom.isDelimiter_of_isDigit (digits c among)
  have isAtom : IsAtom text [] := ⟨something, plain, by simp [Reader.EndsAtom]⟩
  have reached : Reached text [] (text ++ []) := by
    rw [List.append_nil]
    exact .start
  exact ⟨[], text, [], ⟨isAtom, reached⟩, Numeral.overlong_of_isDigit digits long⟩

namespace Index

/-- The problems of an index say what is wrong with its text: why it cannot be cut into tokens, or
else why it cannot be read, at the first defect of its brackets. -/
structure Shows (text : List Char) (index : Index) : Prop where
  lexical : ∀ cause position, Token.tokenize text = .error (.lexical cause position) →
    index.problems = [⟨cause.message, position, .error⟩]
  syntactic : ∀ tokens forms failure, Token.tokenize text = .ok tokens →
    readAll text = (forms, some failure) → ∃ cause position,
      failure.locate text = .malformed cause position ∧
        index.problems = [⟨cause.message, position, .error⟩]
  exact : ∀ tokens, Token.tokenize text = .ok tokens → Diagnosed tokens index

/-- A text has no index exactly if cutting it reaches an integer numeral of too many digits. -/
theorem build_eq_error_iff {text : List Char} {error : NumberError} :
    build text = .error error ↔
      ∃ digits, Token.ReachesOverlong text digits ∧ error = .numeralTooLong digits := by
  have same : build text = .error error ↔ Token.tokenize text = .error (.number error) := by
    cases cut : Token.tokenize text with
    | ok tokens =>
      obtain ⟨index, built, -⟩ := build_of_tokens cut
      simp [built]
    | error failure =>
      unfold build
      cases failure <;> simp [cut]
  rw [same, Token.tokenize_number_iff]

theorem shows_of_build {text : List Char} {index : Index} (built : build text = .ok index) :
    Shows text index := by
  rcases build_cases built with
    ⟨cause, position, stopped, rfl⟩ | ⟨tokens, problems, cut, found, rfl⟩
  · refine ⟨?_, ?_, ?_⟩
    · intro cause' position' stopped'
      cases stopped.symm.trans stopped'
      rfl
    · intro tokens forms failure cut
      cases stopped.symm.trans cut
    · intro tokens cut
      cases stopped.symm.trans cut
  · refine ⟨?_, ?_, ?_⟩
    · intro cause position stopped
      cases stopped.symm.trans cut
    · intro tokens' forms failure cut' ended
      rw [ended, problemsOf] at found
      cases located : failure.locate text with
      | malformed cause position =>
        rw [located] at found
        cases found
        exact ⟨cause, position, rfl, rfl⟩
      | number error =>
        rw [located] at found
        cases found
    · intro tokens' cut'
      obtain ⟨other, builtOther, diagnosed, -⟩ := build_of_tokens cut'
      cases built.symm.trans builtOther
      exact diagnosed

end Index

namespace Event

/-- The address of the document that an event is about. -/
def address : Event → String
  | opened address _ | changed address _ | closed address => address

/-- The text that an event brings, if it does not close the document. -/
def text? : Event → Option String
  | opened _ text | changed _ text => some text
  | closed _ => none

/-- The document of the text that an event brings. -/
def document? (event : Event) : Option Document :=
  event.text?.bind fun text => (Document.ofText text).toOption

/-- The event takes effect at an address: it is about the document there, and cutting its text, if
it brings one, reaches no integer numeral of too many digits. -/
def Settles (event : Event) (address : String) : Prop :=
  event.address = address ∧
    ∀ text ∈ event.text?, ∀ digits, ¬Token.ReachesOverlong text.toList digits

end Event

namespace Editor

/-- The editor after an event; one that fails leaves it as it was. -/
def after (editor : Editor) (event : Event) : Editor :=
  match editor.handle event with
  | .ok (next, _) => next
  | .error _ => editor

/-- The editor after events, from one without documents on. -/
def history (events : List Event) : Editor :=
  events.foldl after empty

/-- At an address the editor has a document, or none, and answers from it. -/
structure Holds (editor : Editor) (address : String) (document? : Option Document) : Prop where
  document : editor.document? address = document?
  hover : ∀ place, editor.hover? address place = document?.bind (·.hover? place)
  completions : editor.completions address =
    usageCompletions ++ (document?.map Document.completions).getD []
  outline : editor.outline? address = document?.map Document.outline

theorem holds_of_document? {editor : Editor} {address : String} {document? : Option Document}
    (document : editor.document? address = document?) : editor.Holds address document? := by
  subst document
  exact ⟨rfl, fun _ => rfl, rfl, rfl⟩

/-- An event whose text reaches no overlong numeral. -/
theorem handle_of_text (editor : Editor) {event : Event} {text : String}
    (brings : event.text? = some text)
    (legible : ∀ digits, ¬Token.ReachesOverlong text.toList digits) :
    ∃ index, Index.build text.toList = .ok index ∧ event.document? = some ⟨text, index⟩ ∧
      editor.handle event = .ok (⟨Table.put editor.documents event.address ⟨text, index⟩⟩,
        Document.diagnostics ⟨text, index⟩) := by
  cases built : Index.build text.toList with
  | error error =>
    obtain ⟨digits, reached, -⟩ := Index.build_eq_error_iff.mp built
    exact (legible digits reached).elim
  | ok index =>
    have indexed : Document.ofText text = .ok ⟨text, index⟩ :=
      Document.ofText_eq_ok_iff.mpr ⟨index, built, rfl⟩
    refine ⟨index, rfl, ?_, ?_⟩
    · rw [Event.document?, brings, Option.bind_some, indexed]
      rfl
    · cases event <;> cases brings <;> simp [handle, update, indexed, Event.address]

/-- An event whose text reaches an overlong numeral fails. -/
theorem handle_of_overlong (editor : Editor) {event : Event} {text : String} {digits : Nat}
    (brings : event.text? = some text) (reached : Token.ReachesOverlong text.toList digits) :
    editor.handle event = .error (.numeralTooLong digits) := by
  have noIndex := Index.build_eq_error_iff.mpr ⟨digits, reached, rfl⟩
  cases event <;> cases brings <;> simp [handle, update, Document.ofText, noIndex]

/-- Closing takes the document at the address away. -/
theorem document?_close (editor : Editor) (address other : String) :
    (editor.close address).document? other =
      if other = address then none else editor.document? other :=
  Table.get?_filter_ne editor.documents address other

/-- An event that takes effect leaves its document at the address. -/
theorem document?_after_of_settles {editor : Editor} {event : Event} {address : String}
    (settles : event.Settles address) :
    (editor.after event).document? address = event.document? := by
  obtain ⟨rfl, legible⟩ := settles
  cases brings : event.text? with
  | some text =>
    obtain ⟨index, -, leaves, handled⟩ := editor.handle_of_text brings (legible text brings)
    rw [after, handled, leaves]
    exact Table.get?_put_self _ _ _
  | none =>
    cases event with
    | opened | changed => cases brings
    | closed address =>
      rw [Event.document?, brings]
      exact (document?_close editor address address).trans (if_pos rfl)

/-- An event that takes no effect at an address leaves the document there as it was. -/
theorem document?_after_of_not_settles {editor : Editor} {event : Event} {address : String}
    (unsettled : ¬event.Settles address) :
    (editor.after event).document? address = editor.document? address := by
  cases brings : event.text? with
  | some text =>
    by_cases reached : ∃ digits, Token.ReachesOverlong text.toList digits
    · obtain ⟨digits, reached⟩ := reached
      rw [after, editor.handle_of_overlong brings reached]
    · have legible : ∀ digits, ¬Token.ReachesOverlong text.toList digits :=
        fun digits found => reached ⟨digits, found⟩
      have elsewhere : event.address ≠ address := by
        intro same
        refine unsettled ⟨same, fun text' brings' => ?_⟩
        cases brings.symm.trans brings'
        exact legible
      obtain ⟨index, -, -, handled⟩ := editor.handle_of_text brings legible
      rw [after, handled]
      exact Table.get?_put_of_ne _ _ elsewhere
  | none =>
    cases event with
    | opened | changed => cases brings
    | closed closing =>
      have elsewhere : address ≠ closing := by
        rintro rfl
        exact unsettled ⟨rfl, fun _ brings' => nomatch brings'⟩
      exact (document?_close editor closing address).trans (if_neg elsewhere)

/-- Events that take no effect at an address leave the document there as it was. -/
theorem document?_foldl_after {later : List Event} {address : String}
    (unsettled : ∀ event ∈ later, ¬event.Settles address) (editor : Editor) :
    (later.foldl after editor).document? address = editor.document? address := by
  induction later generalizing editor with
  | nil => rfl
  | cons event rest ih =>
    rw [List.foldl_cons, ih fun other among => unsettled other (.tail _ among),
      document?_after_of_not_settles (unsettled event (.head _))]

/-- A history leaves at an address the document of the last event that took effect there. -/
theorem document?_history {event : Event} {later : List Event} {address : String}
    (settles : event.Settles address) (unsettled : ∀ other ∈ later, ¬other.Settles address)
    (earlier : List Event) :
    (history (earlier ++ event :: later)).document? address = event.document? := by
  rw [history, List.foldl_append, List.foldl_cons, document?_foldl_after unsettled,
    document?_after_of_settles settles]

/-- Among events, the last one that takes effect at an address, if there is one. -/
theorem exists_last_settling (events : List Event) (address : String) :
    (∃ earlier event later, events = earlier ++ event :: later ∧ event.Settles address ∧
      ∀ other ∈ later, ¬other.Settles address) ∨ ∀ event ∈ events, ¬event.Settles address := by
  induction events using List.reverseRecOn with
  | nil => exact .inr (by simp)
  | append_singleton events last ih =>
    by_cases settles : last.Settles address
    · exact .inl ⟨events, last, [], rfl, settles, by simp⟩
    · rcases ih with ⟨earlier, event, later, rfl, settlesEarlier, unsettled⟩ | unsettled
      · refine .inl ⟨earlier, event, later ++ [last], by simp, settlesEarlier, ?_⟩
        intro other among
        rcases List.mem_append.mp among with inLater | same
        · exact unsettled other inLater
        · rwa [List.mem_singleton.mp same]
      · refine .inr fun event among => ?_
        rcases List.mem_append.mp among with inEvents | same
        · exact unsettled event inEvents
        · rwa [List.mem_singleton.mp same]

/-- The documents of an editor after any history.  A further event with a text is accepted unless
cutting the text reaches an integer numeral of too many digits: it leaves the text with its index at
its address, publishes the diagnostics of the index, which shows what is wrong with the text, and
leaves the other documents as they were.  If such a numeral is reached, the event fails with the
number of its digits and leaves the editor as it was.  At every address the editor answers from the
text of the last event that took effect there, and without a document if that event closed it or if
there is none. -/
theorem history_documents (events : List Event) :
    (∀ (event : Event) (text : String), event.text? = some text →
      ((∀ digits, ¬Token.ReachesOverlong text.toList digits) →
        ∃ index, Index.build text.toList = .ok index ∧ index.Shows text.toList ∧
          (history events).handle event =
            .ok (history (events ++ [event]), Document.diagnostics ⟨text, index⟩) ∧
          (history (events ++ [event])).Holds event.address (some ⟨text, index⟩) ∧
          ∀ other, other ≠ event.address →
            (history (events ++ [event])).document? other = (history events).document? other) ∧
      ∀ digits, Token.ReachesOverlong text.toList digits →
        (history events).handle event = .error (.numeralTooLong digits) ∧
          history (events ++ [event]) = history events) ∧
    ∀ address,
      (∃ earlier event later, events = earlier ++ event :: later ∧ event.Settles address ∧
        (∀ other ∈ later, ¬other.Settles address) ∧
        (history events).Holds address event.document?) ∨
      (∀ event ∈ events, ¬event.Settles address) ∧ (history events).Holds address none := by
  have next (event : Event) : history (events ++ [event]) = (history events).after event := by
    rw [history, List.foldl_append]
    rfl
  refine ⟨fun event text brings => ⟨fun legible => ?_, fun digits reached => ?_⟩, fun address => ?_⟩
  · obtain ⟨index, built, leaves, handled⟩ := (history events).handle_of_text brings legible
    have settles : event.Settles event.address := by
      refine ⟨rfl, fun text' brings' => ?_⟩
      cases brings.symm.trans brings'
      exact legible
    refine ⟨index, built, Index.shows_of_build built, ?_, ?_, fun other elsewhere => ?_⟩
    · rw [next, after, handled]
    · apply holds_of_document?
      rw [next, document?_after_of_settles settles, leaves]
    · rw [next, document?_after_of_not_settles fun settlesOther => elsewhere settlesOther.1.symm]
  · have failed := (history events).handle_of_overlong brings reached
    exact ⟨failed, by rw [next, after, failed]⟩
  · rcases exists_last_settling events address with
      ⟨earlier, event, later, rfl, settles, unsettled⟩ | unsettled
    · exact .inl ⟨earlier, event, later, rfl, settles, unsettled,
        holds_of_document? (document?_history settles unsettled earlier)⟩
    · exact .inr ⟨unsettled, holds_of_document? (document?_foldl_after unsettled empty)⟩

/-- The digit one, several times. -/
def ones (count : Nat) : String := String.ofList (List.replicate count '1')

theorem reachesOverlong_ones {count : Nat} (long : NumberError.digitLimit < count) :
    Token.ReachesOverlong (ones count).toList count := by
  have digits : ∀ c ∈ List.replicate count '1', c.isDigit = true := by
    intro c among
    rw [List.eq_of_mem_replicate among]
    rfl
  have found := Token.reachesOverlong_of_isDigit digits (by rwa [List.length_replicate])
  rw [List.length_replicate] at found
  rwa [ones, String.toList_ofList]

/-- A text that can be read. -/
def readable : String := "(define x 1)"

/-- Opening a text that can be read, and changing it into an overlong numeral. -/
theorem history_documents_overlong :
    ((∀ digits, ¬Token.ReachesOverlong readable.toList digits) ∧
      (history []).handle (.opened "a" readable) = .ok (history [.opened "a" readable], [])) ∧
    (Token.ReachesOverlong (ones 4301).toList 4301 ∧
      (history [.opened "a" readable]).handle (.changed "a" (ones 4301)) =
        .error (.numeralTooLong 4301)) ∧
    (history [.opened "a" readable, .changed "a" (ones 4301)]).hover? "a" ⟨0, 8⟩ =
      some "x: var (defined at 1:9)" := by
  have built : Index.build readable.toList =
      .ok ⟨[("x", ⟨.value, ⟨1, 9⟩⟩)], [], 0, 1⟩ := by decide +kernel
  have legible : ∀ digits, ¬Token.ReachesOverlong readable.toList digits := by
    intro digits reached
    rw [Index.build_eq_error_iff.mpr ⟨digits, reached, rfl⟩] at built
    cases built
  have reached : Token.ReachesOverlong (ones 4301).toList 4301 := reachesOverlong_ones (by decide)
  obtain ⟨index, builtIndex, -, handled, holds, -⟩ :=
    ((history_documents []).1 (.opened "a" readable) readable rfl).1 legible
  cases built.symm.trans builtIndex
  obtain ⟨failed, same⟩ :=
    ((history_documents [.opened "a" readable]).1 (.changed "a" (ones 4301)) _ rfl).2 4301 reached
  refine ⟨⟨legible, handled⟩, ⟨reached, failed⟩, ?_⟩
  have shown : Document.hover? ⟨readable, ⟨[("x", ⟨.value, ⟨1, 9⟩⟩)], [], 0, 1⟩⟩ ⟨0, 8⟩ =
      some "x: var (defined at 1:9)" := by decide +kernel
  have answer := holds.hover ⟨0, 8⟩
  rw [List.nil_append, ← same, Option.bind_some, shown] at answer
  exact answer

end Editor

end SandboxLisp
