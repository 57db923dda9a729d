import SandboxLisp.Proofs.Evaluation.Likeness

/-!
# Like data look alike

Nothing that evaluation asks of data tells like data apart: neither their texts, nor equality and
order, whether these are bounded or not.  A failed comparison gives the data that have no order, of
which only the names of their types are shown.
-/

namespace SandboxLisp

variable {view : View} {pairing : Pairing}

/-! ### Texts -/

mutual

theorem Alike.fault?_eq (form : TextForm) (levels : Option Nat) {datum datum' : Datum}
    (alike : Alike view pairing datum datum') :
    datum.fault? form levels = datum'.fault? form levels := by
  cases alike with
  | list _ parts => rw [Datum.fault?, Datum.fault?, parts.fault?_eq form]
  | object _ parts => rw [Datum.fault?, Datum.fault?, parts.fault?_eq (Datum.fieldForm form)]
  | _ => rfl

theorem ItemsAlike.fault?_eq (form : TextForm) (levels : Option Nat) {items items' : List Datum}
    (alike : ItemsAlike view pairing items items') :
    Datum.itemFault? form levels items = Datum.itemFault? form levels items' := by
  cases alike with
  | nil => rfl
  | cons first others =>
    rw [Datum.itemFault?, Datum.itemFault?, first.fault?_eq form, others.fault?_eq form]

theorem FieldsAlike.fault?_eq (form : TextForm) (levels : Option Nat)
    {fields fields' : List (String × Datum)} (alike : FieldsAlike view pairing fields fields') :
    Datum.fieldFault? form levels fields = Datum.fieldFault? form levels fields' := by
  cases alike with
  | nil => rfl
  | cons _ first others =>
    rw [Datum.fieldFault?, Datum.fieldFault?, first.fault?_eq form, others.fault?_eq form]

end

mutual

theorem Alike.render_eq (form : TextForm) {datum datum' : Datum}
    (alike : Alike view pairing datum datum') : datum.render form = datum'.render form := by
  cases alike with
  | list _ parts => rw [Datum.render, Datum.render, parts.render_eq form]
  | object _ parts => rw [Datum.render, Datum.render, parts.render_eq (Datum.fieldForm form)]
  | _ => rfl

theorem ItemsAlike.render_eq (form : TextForm) {items items' : List Datum}
    (alike : ItemsAlike view pairing items items') :
    Datum.renderItems form items = Datum.renderItems form items' := by
  cases alike with
  | nil => rfl
  | cons first others =>
    have shown := first.render_eq form
    have rest := others.render_eq form
    -- A nil item is displayed as nothing, so the display form looks at the item itself.
    cases form with
    | display =>
      cases first with
      | nil => exact congrArg (List.cons []) rest
      | _ => exact congrArg₂ List.cons shown rest
    | _ => exact congrArg₂ List.cons shown rest

theorem FieldsAlike.render_eq (form : TextForm) {fields fields' : List (String × Datum)}
    (alike : FieldsAlike view pairing fields fields') :
    Datum.renderFields form fields = Datum.renderFields form fields' := by
  cases alike with
  | nil => rfl
  | cons _ first others =>
    rw [Datum.renderFields, Datum.renderFields, first.render_eq form, others.render_eq form]

end

theorem Alike.textWithin_eq {datum datum' : Datum} (alike : Alike view pairing datum datum')
    (form : TextForm) (levels : Option Nat) :
    datum.textWithin form levels = datum'.textWithin form levels := by
  have plain : Datum.plainText? form datum = Datum.plainText? form datum' := by
    cases alike <;> cases form <;> rfl
  rw [Datum.textWithin, Datum.textWithin, plain, alike.fault?_eq, alike.render_eq]

/-! ### Equality and order -/

theorem MarksAlike.sameMark_eq {first first' second second' : Option Mark}
    (one : MarksAlike pairing first first') (another : MarksAlike pairing second second') :
    Datum.sameMark first second = Datum.sameMark first' second' := by
  cases one with
  | none => rfl
  | some paired =>
    cases another with
    | none => rfl
    | some paired' =>
      rw [Bool.eq_iff_iff]
      simpa [Datum.sameMark] using pairing.eq_iff paired paired'

theorem Alike.atomsEqual_eq (matching : Datum.Matching) {first first' second second' : Datum}
    (one : Alike view pairing first first') (another : Alike view pairing second second') :
    Datum.atomsEqual matching first second = Datum.atomsEqual matching first' second' := by
  unfold Datum.atomsEqual
  rw [one.measure?_eq, another.measure?_eq]
  split
  · rfl
  · cases one with
    | nan paired =>
      cases another with
      | nan paired' =>
        rw [Bool.eq_iff_iff]
        simpa using pairing.eq_iff paired paired'
      | _ => rfl
    | closure paired _ _ =>
      cases another with
      | closure paired' _ _ =>
        rw [Bool.eq_iff_iff]
        simpa using pairing.eq_iff paired paired'
      | _ => rfl
    | _ => cases another <;> rfl
  · rfl

mutual

theorem Alike.equalBy_eq (matching : Datum.Matching) {first first' second second' : Datum}
    (one : Alike view pairing first first') (another : Alike view pairing second second') :
    first.equalBy matching second = first'.equalBy matching second' := by
  have atoms := one.atomsEqual_eq matching another
  cases one with
  | list _ parts =>
    cases another with
    | list _ parts' => exact parts.equalBy_eq matching parts'
    | _ => rfl
  | object _ parts =>
    cases another with
    | object _ parts' =>
      rw [Datum.equalBy, Datum.equalBy, parts.length_eq, parts'.length_eq,
        parts.equalBy_eq matching parts']
    | _ => rfl
  | _ => exact atoms

theorem ItemsAlike.equalBy_eq (matching : Datum.Matching) {items items' others others' : List Datum}
    (one : ItemsAlike view pairing items items')
    (another : ItemsAlike view pairing others others') :
    Datum.itemsEqualBy matching items others = Datum.itemsEqualBy matching items' others' := by
  cases one with
  | nil => cases another <;> rfl
  | cons first rest =>
    cases another with
    | nil => rfl
    | cons first' rest' =>
      exact congrArg₂ and (first.equalBy_eq matching first') (rest.equalBy_eq matching rest')

theorem FieldsAlike.equalBy_eq (matching : Datum.Matching)
    {fields fields' others others' : List (String × Datum)}
    (one : FieldsAlike view pairing fields fields')
    (another : FieldsAlike view pairing others others') :
    Datum.fieldsEqualBy matching fields others = Datum.fieldsEqualBy matching fields' others' := by
  cases one with
  | nil => rfl
  | cons name first rest =>
    have found := another.get? name
    rw [Datum.fieldsEqualBy, Datum.fieldsEqualBy, rest.equalBy_eq matching another]
    generalize Table.get? others name = binding, Table.get? others' name = binding' at found ⊢
    cases found with
    | none => rfl
    | some value => exact congrArg (· && _) (first.equalBy_eq matching value)

end

mutual

theorem Alike.equalWithin_eq (matching : Datum.Matching) (levels : Nat)
    {first first' second second' : Datum} (one : Alike view pairing first first')
    (another : Alike view pairing second second') :
    first.equalWithin matching levels second = first'.equalWithin matching levels second' := by
  have atoms := one.atomsEqual_eq matching another
  cases one with
  | list marks parts =>
    cases another with
    | list marks' parts' =>
      rw [Datum.equalWithin, Datum.equalWithin, marks.sameMark_eq marks', parts.length_eq,
        parts'.length_eq, parts.equalWithin_eq matching _ parts']
    | _ => rfl
  | object paired parts =>
    cases another with
    | object paired' parts' =>
      rw [Datum.equalWithin, Datum.equalWithin, parts.length_eq, parts'.length_eq,
        parts.namesAmong_eq parts', parts.equalWithin_eq matching _ parts']
      simp only [pairing.eq_iff paired paired']
    | _ => rfl
  | _ => exact congrArg some atoms

theorem ItemsAlike.equalWithin_eq (matching : Datum.Matching) (levels : Nat)
    {items items' others others' : List Datum} (one : ItemsAlike view pairing items items')
    (another : ItemsAlike view pairing others others') :
    Datum.itemsEqualWithin matching levels items others =
      Datum.itemsEqualWithin matching levels items' others' := by
  cases one with
  | nil => rfl
  | cons first rest =>
    cases another with
    | nil => rfl
    | cons first' rest' =>
      rw [Datum.itemsEqualWithin, Datum.itemsEqualWithin,
        first.equalWithin_eq matching levels first', rest.equalWithin_eq matching levels rest']

theorem FieldsAlike.equalWithin_eq (matching : Datum.Matching) (levels : Nat)
    {fields fields' others others' : List (String × Datum)}
    (one : FieldsAlike view pairing fields fields')
    (another : FieldsAlike view pairing others others') :
    Datum.fieldsEqualWithin matching levels fields others =
      Datum.fieldsEqualWithin matching levels fields' others' := by
  cases one with
  | nil => rfl
  | cons name first rest =>
    have found := another.get? name
    rw [Datum.fieldsEqualWithin, Datum.fieldsEqualWithin,
      rest.equalWithin_eq matching levels another]
    generalize Table.get? others name = binding, Table.get? others' name = binding' at found ⊢
    cases found with
    | none => rfl
    | some value =>
      dsimp only
      rw [first.equalWithin_eq matching levels value]

end

/-- What a failed comparison shows of the data that have no order. -/
def Datum.blame (outcome : Except (Datum × Datum) Bool) : Except (String × String) Bool :=
  outcome.mapError fun pair => (pair.1.operandName, pair.2.operandName)

theorem Alike.relateAtoms_eq (relation : Relation) {first first' second second' : Datum}
    (one : Alike view pairing first first') (another : Alike view pairing second second') :
    Datum.blame (Datum.relateAtoms relation first second) =
      Datum.blame (Datum.relateAtoms relation first' second') := by
  unfold Datum.relateAtoms
  rw [one.orderNumber?_eq, another.orderNumber?_eq]
  split
  · rfl
  · cases one <;> cases another <;> rfl

mutual

theorem Alike.relate_eq (relation : Relation) {first first' second second' : Datum}
    (one : Alike view pairing first first') (another : Alike view pairing second second') :
    Datum.blame (first.relate relation second) = Datum.blame (first'.relate relation second') := by
  have atoms := one.relateAtoms_eq relation another
  cases one with
  | list _ parts =>
    cases another with
    | list _ parts' => exact parts.relate_eq relation parts'
    | _ => rfl
  | _ => exact atoms

theorem ItemsAlike.relate_eq (relation : Relation) {items items' others others' : List Datum}
    (one : ItemsAlike view pairing items items')
    (another : ItemsAlike view pairing others others') :
    Datum.blame (Datum.relateItems relation items others) =
      Datum.blame (Datum.relateItems relation items' others') := by
  cases one with
  | nil => cases another <;> rfl
  | cons first rest =>
    cases another with
    | nil => rfl
    | cons first' rest' =>
      rw [Datum.relateItems, Datum.relateItems, first.equalBy_eq .loose first']
      split
      · exact rest.relate_eq relation rest'
      · exact first.relate_eq relation first'

end

mutual

theorem Alike.relateWithin_eq (relation : Relation) (levels : Nat)
    {first first' second second' : Datum} (one : Alike view pairing first first')
    (another : Alike view pairing second second') :
    (first.relateWithin relation levels second).map Datum.blame =
      (first'.relateWithin relation levels second').map Datum.blame := by
  have atoms := one.relateAtoms_eq relation another
  cases one with
  | list _ parts =>
    cases another with
    | list _ parts' =>
      rw [Datum.relateWithin, Datum.relateWithin]
      split
      · rfl
      · exact parts.relateWithin_eq relation _ parts'
    | _ => rfl
  | _ => exact congrArg some atoms

theorem ItemsAlike.relateWithin_eq (relation : Relation) (levels : Nat)
    {items items' others others' : List Datum} (one : ItemsAlike view pairing items items')
    (another : ItemsAlike view pairing others others') :
    (Datum.relateItemsWithin relation levels items others).map Datum.blame =
      (Datum.relateItemsWithin relation levels items' others').map Datum.blame := by
  cases one with
  | nil => cases another <;> rfl
  | cons first rest =>
    cases another with
    | nil => rfl
    | cons first' rest' =>
      rw [Datum.relateItemsWithin, Datum.relateItemsWithin,
        first.equalWithin_eq .loose levels first']
      split
      · rfl
      · exact rest.relateWithin_eq relation levels rest'
      · exact first.relateWithin_eq relation levels first'

end

end SandboxLisp
