import SandboxLisp.Proofs.Evaluation.Failures
import SandboxLisp.Proofs.Identity.Kept

/-!
# The default primitives keep the store

A primitive that is given kept arguments ends in plain data, in an argument or a part of one, or in
a list or object that is made now of such parts.  Each of these is kept, so whatever a default
primitive gives is.
-/

namespace SandboxLisp.Primitive

open Eval

/-- A primitive that keeps the store if its arguments are kept. -/
def KeepsStore (primitive : Primitive) : Prop :=
  ∀ heap recur arguments, KeptItems heap arguments → Keeps heap Kept (primitive recur arguments)

/-! ### Numbers of arguments -/

section Arities

variable {name : String}

theorem keepsStore_variadic {body : List Datum → Eval Datum}
    (keeps : ∀ {heap arguments}, KeptItems heap arguments → Keeps heap Kept (body arguments)) :
    KeepsStore (variadic body) :=
  fun _ _ _ kept => keeps kept

theorem keepsStore_atLeastOne {body : Datum → List Datum → Eval Datum}
    (keeps : ∀ {heap first rest}, Kept heap first → KeptItems heap rest →
      Keeps heap Kept (body first rest)) :
    KeepsStore (atLeastOne name body) := by
  intro heap recur arguments kept
  unfold atLeastOne
  split
  · obtain ⟨first, others⟩ := List.forall_mem_cons.mp kept
    exact keeps first others
  · exact .fail _

theorem keepsStore_unary {body : Datum → Eval Datum}
    (keeps : ∀ {heap argument}, Kept heap argument → Keeps heap Kept (body argument)) :
    KeepsStore (unary name body) := by
  intro heap recur arguments kept
  unfold unary
  split
  · exact keeps (kept _ (.head _))
  · exact .fail _

theorem keepsStore_binary {body : Datum → Datum → Eval Datum}
    (keeps : ∀ {heap first second}, Kept heap first → Kept heap second →
      Keeps heap Kept (body first second)) :
    KeepsStore (binary name body) := by
  intro heap recur arguments kept
  unfold binary
  split
  · exact keeps (kept _ (.head _)) (kept _ (.tail _ (.head _)))
  · exact .fail _

theorem keepsStore_ternary {body : Datum → Datum → Datum → Eval Datum}
    (keeps : ∀ {heap first second third}, Kept heap first → Kept heap second → Kept heap third →
      Keeps heap Kept (body first second third)) :
    KeepsStore (ternary name body) := by
  intro heap recur arguments kept
  unfold ternary
  split
  · exact keeps (kept _ (.head _)) (kept _ (.tail _ (.head _)))
      (kept _ (.tail _ (.tail _ (.head _))))
  · exact .fail _

/-- No primitive gives an optional argument back, so nothing is asked of it. -/
theorem keepsStore_oneOrTwo {body : Datum → Option Datum → Eval Datum}
    (keeps : ∀ {heap first} second, Kept heap first → Keeps heap Kept (body first second)) :
    KeepsStore (oneOrTwo name body) := by
  intro heap recur arguments kept
  unfold oneOrTwo
  split
  · exact keeps _ (kept _ (.head _))
  · exact keeps _ (kept _ (.head _))
  · exact .fail _

theorem keepsStore_twoOrThree {body : Datum → Datum → Option Datum → Eval Datum}
    (keeps : ∀ {heap first} second third, Kept heap first →
      Keeps heap Kept (body first second third)) :
    KeepsStore (twoOrThree name body) := by
  intro heap recur arguments kept
  unfold twoOrThree
  split
  · exact keeps _ _ (kept _ (.head _))
  · exact keeps _ _ (kept _ (.head _))
  · exact .fail _

theorem keepsStore_oneToThree {body : Datum → Option Datum → Option Datum → Eval Datum}
    (keeps : ∀ {heap first} second third, Kept heap first →
      Keeps heap Kept (body first second third)) :
    KeepsStore (oneToThree name body) := by
  intro heap recur arguments kept
  unfold oneToThree
  split
  · exact keeps _ _ (kept _ (.head _))
  · exact keeps _ _ (kept _ (.head _))
  · exact keeps _ _ (kept _ (.head _))
  · exact .fail _

end Arities

/-! ### What is asked of arguments -/

section Questions

variable {heap : Heap} {datum : Datum}

theorem keeps_asks {α : Type} {question : Datum → Eval α} (asks : Asks .whole question)
    (datum : Datum) : Keeps heap Whatever (question datum) :=
  .plain (asks.plain datum)

theorem keeps_number (name : String) (datum : Datum) :
    Keeps heap Whatever (expectNumber name datum) :=
  keeps_asks (asks_expectNumber .whole name) datum

theorem keeps_numbers (name : String) (data : List Datum) :
    Keeps heap Whatever (data.mapM (expectNumber name)) :=
  .plain (.mapM (asks_expectNumber .whole name).plain data)

theorem keeps_integer (name : String) (datum : Datum) :
    Keeps heap Whatever (expectInteger name datum) :=
  keeps_asks (asks_expectInteger .whole name) datum

theorem keeps_string (name : String) (datum : Datum) :
    Keeps heap Whatever (expectString name datum) :=
  keeps_asks (asks_expectString .whole name) datum

theorem keeps_key (datum : Datum) : Keeps heap Whatever (keyOf datum) :=
  keeps_asks (asks_keyOf .whole) datum

theorem keeps_texts (form : TextForm) (data : List Datum) :
    Keeps heap Whatever (data.mapM (text form)) :=
  .plain (.mapM (Plain.text form) data)

theorem keeps_displays (data : List Datum) :
    Keeps heap Whatever (data.mapM displayOrNothing) :=
  .plain (.mapM (asks_displayOrNothing .whole).plain data)

theorem keeps_list (name : String) (kept : Kept heap datum) :
    Keeps heap KeptItems (expectList name datum) := by
  unfold expectList
  split
  · exact .pure fun _ grows => KeptItems.mono grows kept.items
  · exact .fail _

theorem keeps_object (name : String) (kept : Kept heap datum) :
    Keeps heap KeptFields (expectObject name datum) := by
  unfold expectObject
  split
  · exact .pure fun _ grows => kept.fields.mono grows
  · exact .fail _

/-- Numbers one after another make kept data. -/
theorem keeps_ofNumber (outcome : Except NumberError Number) :
    Keeps heap Kept (ofNumber outcome >>= number) :=
  (Keeps.ofNumber outcome).bindAny .number

end Questions

/-! ### Arithmetic -/

theorem keepsStore_arithmetic : ∀ entry ∈ arithmetic, KeepsStore entry.2 := by
  have add : KeepsStore add := by
    apply keepsStore_variadic
    intro heap arguments _
    split
    · exact (keeps_displays arguments).answer fun _ => rfl
    · split
      · exact keeps_ofNumber _
      · exact .fail _
  have subtract : KeepsStore subtract := by
    apply keepsStore_atLeastOne
    intro heap first rest _ _
    refine (keeps_number _ first).bindAny fun start => ?_
    refine (keeps_numbers _ rest).bindAny fun others => ?_
    split
    · exact .number _
    · exact keeps_ofNumber _
  have multiply : KeepsStore multiply := by
    apply keepsStore_variadic
    intro heap arguments _
    refine Keeps.bindAny (.plain (Plain.foldlM ?_ arguments _)) .number
    intro product argument
    refine ((asks_expectNumber .whole "*").plain argument).bind fun factor => ?_
    exact .ofNumber (Number.converts_mul product factor)
  have divide : KeepsStore divide := by
    apply keepsStore_atLeastOne
    intro heap first rest kept _
    refine (keeps_number _ first).bindAny fun start => ?_
    refine (keeps_numbers _ rest).bindAny fun divisors => ?_
    split
    · exact .pure fun _ grows => kept.mono grows
    · exact Keeps.bindAny (.plain (plain_divideAll start _)) .number
  have modulo : KeepsStore modulo := by
    apply keepsStore_binary
    intro heap first second _ _
    refine (keeps_number _ first).bindAny fun dividend => ?_
    refine (keeps_number _ second).bindAny fun divisor => ?_
    split
    · exact .fail _
    · exact keeps_ofNumber _
  simp [arithmetic, add, subtract, multiply, divide, modulo]

/-! ### Comparison, logic and types -/

theorem keepsStore_comparison : ∀ entry ∈ comparison, KeepsStore entry.2 := by
  have equals : KeepsStore equals :=
    keepsStore_binary fun _ _ => (Keeps.equal _ _).answer fun _ => rfl
  have differs : KeepsStore differs :=
    keepsStore_binary fun _ _ => (Keeps.equal _ _).answer fun _ => rfl
  have ordering (relation : Relation) : KeepsStore (ordering relation) := by
    apply keepsStore_binary
    intro heap first second _ _
    refine .ask fun around => (Keeps.ofExcept _).bindAny fun answer => ?_
    split
    · exact .pure fun _ _ => .plain rfl
    · exact .fail _
  simp [comparison, equals, differs, ordering]

theorem keepsStore_logic : ∀ entry ∈ logic, KeepsStore entry.2 := by
  have conjunction : KeepsStore conjunction :=
    keepsStore_variadic fun _ => .pure fun _ _ => .plain rfl
  have disjunction : KeepsStore disjunction :=
    keepsStore_variadic fun _ => .pure fun _ _ => .plain rfl
  have negation : KeepsStore negation := keepsStore_unary fun _ => .pure fun _ _ => .plain rfl
  simp [logic, conjunction, disjunction, negation]

theorem keepsStore_predicates : ∀ entry ∈ predicates, KeepsStore entry.2 := by
  have test (name : String) (holds : Datum → Bool) : KeepsStore (test name holds) :=
    keepsStore_unary fun _ => .pure fun _ _ => .plain rfl
  simp [predicates, test]

/-! ### Strings -/

theorem keepsStore_parseInteger : KeepsStore parseInteger := by
  apply keepsStore_oneOrTwo
  intro heap subject radixArgument _
  extract_lets goOn
  have keeps (radix : Int) : Keeps heap Kept (goOn radix) := by
    unfold goOn
    split
    · refine (Keeps.text _ _).bindAny fun shown => ?_
      exact (Keeps.ofNumber _).answer fun _ => rfl
    · exact .pure fun _ _ => .plain rfl
  split
  · split
    · exact keeps 10
    · exact (keeps_integer _ _).bindAny keeps
  · exact keeps 10

theorem keepsStore_substring : KeepsStore substring := by
  apply keepsStore_twoOrThree
  intro heap subject startArgument endArgument _
  refine (keeps_string _ _).bindAny fun characters => ?_
  refine (keeps_integer _ _).bindAny fun start => ?_
  extract_lets goOn
  have keeps (stop : Nat) : Keeps heap Kept (goOn stop) := .pure fun _ _ => .plain rfl
  split
  · exact ((keeps_integer _ _).mapAny fun _ _ _ => trivial).bindAny keeps
  · exact keeps _

theorem keepsStore_join : KeepsStore join := by
  apply keepsStore_oneOrTwo
  intro heap list separatorArgument kept
  refine (keeps_list _ kept).bind fun later _ items _ => ?_
  extract_lets goOn
  have keeps (separator : String) : Keeps later Kept (goOn separator) :=
    (keeps_displays items).answer fun _ => rfl
  split
  · exact (Keeps.text _ _).bindAny keeps
  · exact keeps _

/-- A primitive that computes something from two strings. -/
theorem keeps_ofTwoStrings {heap : Heap} {name : String} (first second : Datum)
    {body : List Char → List Char → Eval Datum}
    (keeps : ∀ one other, Keeps heap Kept (body one other)) :
    Keeps heap Kept
      (expectString name first >>= fun one => expectString name second >>= body one) :=
  (keeps_string _ _).bindAny fun one => (keeps_string _ _).bindAny (keeps one)

theorem keepsStore_strings : ∀ entry ∈ strings, KeepsStore entry.2 := by
  have concat : KeepsStore concat :=
    keepsStore_variadic fun _ => (keeps_texts _ _).answer fun _ => rfl
  have toText : KeepsStore toText := keepsStore_unary fun _ => (Keeps.text _ _).answer fun _ => rfl
  have stringLength : KeepsStore stringLength :=
    keepsStore_unary fun _ => (keeps_string _ _).answer fun _ => rfl
  have startsWith : KeepsStore startsWith := keepsStore_binary fun _ _ =>
    keeps_ofTwoStrings _ _ fun _ _ => .pure fun _ _ => .plain rfl
  have endsWith : KeepsStore endsWith := keepsStore_binary fun _ _ =>
    keeps_ofTwoStrings _ _ fun _ _ => .pure fun _ _ => .plain rfl
  have containsText : KeepsStore containsText := keepsStore_binary fun _ _ =>
    keeps_ofTwoStrings _ _ fun _ _ => .pure fun _ _ => .plain rfl
  have replace : KeepsStore replace := keepsStore_ternary fun _ _ _ =>
    keeps_ofTwoStrings _ _ fun _ _ => (keeps_string _ _).answer fun _ => rfl
  have split : KeepsStore split := by
    apply keepsStore_binary
    intro heap subject separator _ _
    refine keeps_ofTwoStrings _ _ fun characters pattern => .newList fun piece isPiece => ?_
    obtain ⟨letters, -, rfl⟩ := List.mem_map.mp isPiece
    exact .plain rfl
  have ofString (name : String) (change : List Char → List Char) : KeepsStore
      (unary name fun argument => return ofChars (change (← expectString name argument))) :=
    keepsStore_unary fun _ => (keeps_string _ _).answer fun _ => rfl
  have trim : KeepsStore trim := ofString _ _
  have upper : KeepsStore upper := ofString _ _
  have lower : KeepsStore lower := ofString _ _
  have parseNumber : KeepsStore parseNumber :=
    keepsStore_unary fun _ => (Keeps.text _ _).bindAny fun _ => keeps_ofNumber _
  simp [strings, concat, toText, stringLength, keepsStore_substring, startsWith, endsWith,
    containsText, replace, split, keepsStore_join, trim, upper, lower, parseNumber,
    keepsStore_parseInteger]

/-! ### Lists -/

theorem keepsStore_range : KeepsStore range := by
  apply keepsStore_oneToThree
  intro heap first second third _
  extract_lets goOn
  have keeps (bounds : Number × Number) : Keeps heap Kept (goOn bounds) := by
    obtain ⟨start, finish⟩ := bounds
    simp only [goOn]
    have lists (step : Number) : Keeps heap Kept
        (ofNumber (progression start finish step) >>= fun numbers =>
          numbers.mapM number >>= newList) := by
      refine (Keeps.ofNumber _).bindAny fun numbers => ?_
      have items : Keeps heap KeptItems (numbers.mapM number) :=
        .mapM (fun _ _ => trivial) (fun _ _ grows _ kept => kept.mono grows) fun _ _ value _ =>
          .number value
      exact items.bind fun _ _ _ kept => .newList kept
    split
    · exact lists _
    · exact (keeps_number _ _).bindAny lists
  split
  · exact (keeps_number _ _).bindAny fun finish => keeps (.int 0, finish)
  · refine (keeps_number _ _).bindAny fun start => ?_
    exact (keeps_number _ _).bindAny fun finish => keeps (start, finish)

theorem keepsStore_slice : KeepsStore slice := by
  apply keepsStore_oneToThree
  intro heap list startArgument endArgument kept
  refine (keeps_list _ kept).bind fun later _ items kept => ?_
  extract_lets goOn
  have keeps (start : Nat) : Keeps later Kept (goOn start) := by
    unfold goOn
    extract_lets cutOut
    have cuts (stop : Nat) : Keeps later Kept (cutOut stop) :=
      .newList fun item isItem => kept item (List.mem_of_mem_drop (List.mem_of_mem_take isItem))
    split
    · exact ((keeps_integer _ _).mapAny fun _ _ _ => trivial).bindAny cuts
    · exact cuts _
  split
  · exact ((keeps_integer _ _).mapAny fun _ _ _ => trivial).bindAny keeps
  · exact keeps _

theorem keeps_indexAmong {heap : Heap} (needle : Datum) :
    (items : List Datum) → (index : Nat) → Keeps heap Whatever (indexAmong needle index items)
  | [], _ => .pure fun _ _ => trivial
  | item :: rest, index => by
      refine (Keeps.equal item needle).bindAny fun found => ?_
      split
      · exact .pure fun _ _ => trivial
      · exact keeps_indexAmong needle rest (index + 1)

theorem keeps_indexIn {heap : Heap} (haystack needle : Datum) :
    Keeps heap Whatever (indexIn haystack needle) := by
  unfold indexIn
  split
  · exact .pure fun _ _ => trivial
  · exact .pure fun _ _ => trivial
  · exact keeps_indexAmong _ _ _
  · exact .fail _

theorem kept_itemAt? {heap : Heap} {items : List Datum} (kept : KeptItems heap items) (index : Int) :
    Kept heap ((itemAt? items index).getD .nil) := by
  refine Kept.getD fun value found => ?_
  unfold itemAt? at found
  split at found
  · cases found
  · exact kept value (List.mem_of_getElem? found)

theorem keepsStore_lists : ∀ entry ∈ lists, KeepsStore entry.2 := by
  have list : KeepsStore list := keepsStore_variadic .newList
  have length : KeepsStore length := by
    apply keepsStore_unary
    intro heap argument _
    split
    · exact .pure fun _ _ => .plain rfl
    · exact .pure fun _ _ => .plain rfl
    · exact .fail _
  have isEmpty : KeepsStore isEmpty := by
    apply keepsStore_unary
    intro heap argument _
    split
    · exact .pure fun _ _ => .plain rfl
    · exact .pure fun _ _ => .plain rfl
    · exact .fail _
  have first : KeepsStore first := keepsStore_unary fun kept =>
    (keeps_list _ kept).map fun _ _ _ kept _ grows =>
      Kept.getD fun value found => (kept value (List.mem_of_head? found)).mono grows
  have last : KeepsStore last := keepsStore_unary fun kept =>
    (keeps_list _ kept).map fun _ _ _ kept _ grows =>
      Kept.getD fun value found => (kept value (List.mem_of_getLast? found)).mono grows
  have rest : KeepsStore rest := keepsStore_unary fun kept =>
    (keeps_list _ kept).bind fun _ _ _ kept =>
      .newList fun item isItem => kept item (List.mem_of_mem_drop isItem)
  have reverse : KeepsStore reverse := keepsStore_unary fun kept =>
    (keeps_list _ kept).bind fun _ _ _ kept =>
      .newList fun item isItem => kept item (List.mem_reverse.mp isItem)
  have append : KeepsStore append := keepsStore_binary fun kept keptItem =>
    (keeps_list _ kept).bind fun _ grows _ kept => .newList <| List.forall_mem_append.mpr
      ⟨kept, List.forall_mem_singleton.mpr (keptItem.mono grows)⟩
  have prepend : KeepsStore prepend := keepsStore_binary fun kept keptItem =>
    (keeps_list _ kept).bind fun _ grows _ kept =>
      .newList (List.forall_mem_cons.mpr ⟨keptItem.mono grows, kept⟩)
  have nth : KeepsStore nth := keepsStore_binary fun kept _ =>
    (keeps_list _ kept).bind fun _ _ _ kept =>
      (keeps_integer _ _).mapAny fun _ grows index => (kept_itemAt? kept index).mono grows
  have concatLists : KeepsStore concatLists := by
    apply keepsStore_variadic
    intro heap arguments kept
    have lists : Keeps heap (fun last lists => ∀ items ∈ lists, KeptItems last items)
        (arguments.mapM (expectList "concat-lists")) :=
      .mapM kept (fun _ _ grows _ kept => KeptItems.mono grows kept) fun _ grows _ kept =>
        keeps_list _ (kept.mono grows)
    refine lists.bind fun later _ lists kept => .newList fun item isItem => ?_
    obtain ⟨items, isList, isItem⟩ := List.mem_flatten.mp isItem
    exact kept items isList item isItem
  have contains : KeepsStore contains :=
    keepsStore_binary fun _ _ => (keeps_indexIn _ _).answer fun _ => rfl
  have indexOf : KeepsStore indexOf := by
    apply keepsStore_binary
    intro heap haystack needle _ _
    refine (keeps_indexIn haystack needle).bindAny fun found => ?_
    split
    · exact .pure fun _ _ => .plain rfl
    · exact .pure fun _ _ => .plain rfl
  simp [lists, list, length, first, rest, last, nth, append, prepend, concatLists,
    keepsStore_slice, reverse, keepsStore_range, isEmpty, contains, indexOf]

/-! ### Objects -/

/-- No fields at all. -/
theorem keptFields_nil (heap : Heap) : KeptFields heap [] :=
  ⟨.nil, nofun⟩

theorem keeps_writePairs {heap : Heap} :
    (pairs : List Datum) → KeptItems heap pairs → (fields : List (String × Datum)) →
      KeptFields heap fields → Keeps heap KeptFields (writePairs fields pairs)
  | [], _, _, written => .pure fun _ grows => written.mono grows
  | [key], _, _, written =>
      (keeps_key key).mapAny fun _ grows name => (written.mono grows).put name (.plain rfl)
  | key :: value :: rest, kept, _, written =>
      (keeps_key key).bindAny fun name =>
        keeps_writePairs rest (fun item isItem => kept item (.tail _ (.tail _ isItem))) _
          (written.put name (kept value (.tail _ (.head _))))

theorem keeps_follow {heap : Heap} {current : Datum} (kept : Kept heap current) (key : Datum) :
    Keeps heap Kept (follow current key) := by
  unfold follow
  split
  · refine (keeps_key key).mapAny fun _ grows name => Kept.getD fun value found => ?_
    exact (kept.fields.kept.get? found).mono grows
  · refine .pure fun later grows => ?_
    split
    · exact (kept_itemAt? kept.items _).mono grows
    · exact .plain rfl
  · refine .pure fun later grows => ?_
    split
    · refine Kept.getD fun value found => ?_
      obtain ⟨letter, -, rfl⟩ := Option.map_eq_some_iff.mp found
      exact .plain rfl
    · exact .plain rfl
  · exact .pure fun _ _ => .plain rfl

theorem keeps_followAll {heap : Heap} (keys : List Datum) {current : Datum}
    (kept : Kept heap current) : Keeps heap Kept (followAll current keys) := by
  induction keys generalizing heap current with
  | nil => exact .pure fun _ grows => kept.mono grows
  | cons key rest ih =>
    unfold followAll
    split
    · exact .pure fun _ _ => .plain rfl
    · exact (keeps_follow kept key).bind fun _ _ _ kept => ih kept

theorem keeps_mergeAll {heap : Heap} {objects : List Datum} (kept : KeptItems heap objects)
    {fields : List (String × Datum)} (written : KeptFields heap fields) :
    Keeps heap KeptFields (mergeAll fields objects) := by
  induction objects generalizing heap fields with
  | nil => exact .pure fun _ grows => written.mono grows
  | cons argument rest ih =>
    obtain ⟨first, others⟩ := List.forall_mem_cons.mp kept
    unfold mergeAll
    split
    · contradiction
    · next same =>
      cases same
      exact ih others written
    · next same =>
      cases same
      refine (keeps_object _ first).bind fun later grows more keptMore => ?_
      exact ih (KeptItems.mono grows others) ((written.mono grows).putAll keptMore.kept)

theorem keepsStore_set : KeepsStore set := by
  apply keepsStore_ternary
  intro heap target key value kept _ keptValue
  extract_lets goOn
  have keeps {later : Heap} (grows : heap ≤ later) {fields : List (String × Datum)}
      (written : KeptFields later fields) : Keeps later Kept (goOn fields) :=
    (keeps_key _).bindAny fun name => .newObject (written.put name (keptValue.mono grows))
  split
  · exact keeps (le_refl heap) (keptFields_nil heap)
  · exact (keeps_object _ kept).bind fun _ grows _ written => keeps grows written

theorem keptItems_writeAt {heap : Heap} {items : List Datum} (kept : KeptItems heap items)
    (index : Nat) {item : Datum} (keptItem : Kept heap item) :
    KeptItems heap (writeAt items index item) := by
  unfold writeAt
  split
  · intro other isOther
    rcases List.mem_or_eq_of_mem_set isOther with before | rfl
    · exact kept other before
    · exact keptItem
  · refine List.forall_mem_append.mpr ⟨List.forall_mem_append.mpr ⟨kept, ?_⟩,
      List.forall_mem_singleton.mpr keptItem⟩
    intro filler isFiller
    rw [List.eq_of_mem_replicate isFiller]
    exact .plain rfl

theorem keepsStore_updateAt : KeepsStore updateAt := by
  apply keepsStore_ternary
  intro heap list indexArgument item kept _ keptItem
  refine (keeps_list _ kept).bind fun later grows items kept => ?_
  refine (keeps_integer _ _).bindAny fun index => ?_
  split
  · split
    · exact .fail _
    · exact .fail _
  · split
    · exact .fail _
    · split
      · exact .fail _
      · exact .newList (keptItems_writeAt kept _ (keptItem.mono grows))

theorem keepsStore_objects : ∀ entry ∈ objects, KeepsStore entry.2 := by
  have object : KeepsStore object := by
    apply keepsStore_variadic
    intro heap arguments kept
    refine (keeps_writePairs arguments kept [] (keptFields_nil heap)).bind ?_
    exact fun _ _ _ written => .newObject written
  have get : KeepsStore get := keepsStore_atLeastOne fun kept _ => keeps_followAll _ kept
  have keys : KeepsStore keys := by
    apply keepsStore_unary
    intro heap argument kept
    refine (keeps_object _ kept).bind fun _ _ fields _ => .newList fun item isItem => ?_
    obtain ⟨field, -, rfl⟩ := List.mem_map.mp isItem
    exact .plain rfl
  have values : KeepsStore values := by
    apply keepsStore_unary
    intro heap argument kept
    refine (keeps_object _ kept).bind fun _ _ fields written => .newList fun item isItem => ?_
    obtain ⟨field, isField, rfl⟩ := List.mem_map.mp isItem
    exact written.kept field isField
  have hasKey : KeepsStore hasKey := keepsStore_binary fun kept _ =>
    (keeps_key _).bindAny fun _ =>
      (keeps_object _ kept).map fun _ _ _ _ _ _ => .plain rfl
  have merge : KeepsStore merge := by
    apply keepsStore_variadic
    intro heap arguments kept
    refine (keeps_mergeAll kept (keptFields_nil heap)).bind ?_
    exact fun _ _ _ written => .newObject written
  simp [objects, object, get, keepsStore_set, keys, values, hasKey, keepsStore_updateAt, merge]

/-! ### Mathematics -/

theorem keepsStore_numeric (name : String) (function : Number → Except NumberError Number) :
    KeepsStore (numeric name function) := by
  apply keepsStore_unary
  intro heap argument _
  refine (keeps_number _ _).bindAny fun value => ?_
  split
  · exact .number _
  · exact .fail _

theorem keepsStore_extremum (name : String) (precedes : Number → Number → Bool) :
    KeepsStore (extremum name precedes) := by
  apply keepsStore_atLeastOne
  intro heap first rest keptFirst keptRest
  refine ((keeps_number _ _).mapAny fun _ _ _ => trivial).bindAny fun _ => ?_
  refine .foldlM keptRest ?_ (fun _ _ grows _ kept => kept.mono grows) keptFirst
  intro later grows current keptCurrent candidate keptCandidate
  refine (keeps_number _ _).bindAny fun left => ?_
  refine (keeps_number _ _).mapAny fun last further right => ?_
  split
  · exact keptCandidate.mono (grows.trans further)
  · exact keptCurrent.mono further

theorem keepsStore_clamp : KeepsStore clamp := by
  apply keepsStore_ternary
  intro heap subject low high keptSubject keptLow keptHigh
  refine (keeps_number _ _).bindAny fun value => ?_
  refine (keeps_number _ _).bindAny fun lowest => ?_
  refine (keeps_number _ _).mapAny fun last grows highest => ?_
  have capped : Kept last (if value.less highest then (subject, value) else (high, highest)).1 := by
    split
    · exact keptSubject.mono grows
    · exact keptHigh.mono grows
  split
  · exact capped
  · exact keptLow.mono grows

theorem keepsStore_mathematics : ∀ entry ∈ mathematics, KeepsStore entry.2 := by
  have raise : KeepsStore raise := by
    apply keepsStore_binary
    intro heap base exponent _ _
    refine (keeps_number _ _).bindAny fun left => ?_
    refine (keeps_number _ _).bindAny fun right => ?_
    split
    · exact .number _
    · exact .fail _
  simp [mathematics, keepsStore_numeric, keepsStore_extremum, raise, keepsStore_clamp]

/-! ### Time, chance and logging -/

theorem keepsStore_ambient : ∀ entry ∈ ambient, KeepsStore entry.2 := by
  have now : KeepsStore now :=
    keepsStore_variadic fun _ => (Keeps.plain plain_milliseconds).answer fun _ => rfl
  have addUnits (name : String) (unitLength : Int) : KeepsStore (addUnits name unitLength) :=
    keepsStore_binary fun _ _ => (keeps_number _ _).bindAny fun _ =>
      (keeps_number _ _).bindAny fun _ => keeps_ofNumber _
  have daysSince : KeepsStore daysSince :=
    keepsStore_unary fun _ => (Keeps.plain plain_milliseconds).bindAny fun _ =>
      (keeps_number _ _).bindAny fun _ => (Keeps.ofNumber _).answer fun _ => rfl
  have print : KeepsStore print := by
    apply keepsStore_variadic
    intro heap arguments kept
    refine (keeps_texts _ _).bindAny fun shown => ?_
    refine (Keeps.logLine _).mapAny fun _ grows _ => Kept.getD fun value found => ?_
    exact (kept value (List.mem_of_head? found)).mono grows
  have random : KeepsStore random :=
    keepsStore_variadic fun _ => Keeps.nextSeed.bindAny fun _ => .number _
  simp [ambient, now, addUnits, daysSince, print, random]

end SandboxLisp.Primitive

namespace SandboxLisp

/-- Every default primitive keeps the store. -/
theorem Registry.keepsStore_of_get? {name : String} {primitive : Primitive}
    (found : Registry.default.get? name = some primitive) : primitive.KeepsStore :=
  forall_mem_defaultPrimitives Primitive.keepsStore_arithmetic Primitive.keepsStore_comparison
    Primitive.keepsStore_logic Primitive.keepsStore_strings Primitive.keepsStore_lists
    Primitive.keepsStore_objects Primitive.keepsStore_mathematics Primitive.keepsStore_predicates
    Primitive.keepsStore_ambient _ (Table.mem_of_get? found)

end SandboxLisp
