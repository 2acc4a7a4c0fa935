import IncomeTax.Proofs.Calendar.DayNumber
import IncomeTax.Proofs.Declaration.FieldPath
import IncomeTax.Proofs.Declaration.Validity

/-!
# No error hides another one

Validation looks at every entry, whatever it found before. The errors about an entry of a list are
those of the checks of this entry: for income, dependents and credits in their tax year, for a
deduction together with the number of the taxpayer, and for a claim together with the claims before
it. The rest of the declaration has no say in them, however many errors it has itself.

More entries only add errors. The days of more income are at least as many, and a claim repeats an
earlier one whatever comes after it.

## Main definitions

* `ValidationError.isAbout` — the error is at an entry or at a field of it
* `Declaration.errorsAbout` — the errors of a declaration about an entry
* `Declaration.extended` — a declaration with more entries at the end of its lists

## Main results

* `Declaration.errorsAbout_income`, `Declaration.errorsAbout_deductions`, … — the errors about an
  entry are those of its own checks
* `Declaration.sublist_validate_extended` — more entries remove no error
* `Declaration.collects_every_error` — both, for two declarations of one year
-/

namespace IncomeTax

open Validation

/-- The error is about an item of a list as a whole or about some field of it. -/
def ValidationError.isAbout (list : String) (index : ℕ) (e : ValidationError) : Bool :=
  e.field == itemPath list index || e.isAt list index

namespace ValidationError

variable {list list' : String} {i j : ℕ} {e : ValidationError}

/-- The path of the item is the whole path of the field, or a point follows it. -/
theorem isAbout_iff : e.isAbout list i = true ↔
    e.field = itemPath list i ∨ ∃ part, e.field = itemPath list i ++ "." ++ part := by
  rw [isAbout, isAt, Bool.or_eq_true, beq_iff_eq, List.isPrefixOf_iff_prefix]
  refine or_congr_right ⟨?_, ?_⟩
  · rintro ⟨rest, field⟩
    exact ⟨String.ofList rest, String.toList_inj.1 (by simp [← field])⟩
  · rintro ⟨part, field⟩
    exact ⟨part.toList, by simp [field]⟩

theorem isAbout_of_field (part : String) (field : e.field = itemPath list i ++ ("." ++ part)) :
    e.isAbout list i = true :=
  isAbout_iff.2 (.inr ⟨part, by rw [field, String.append_assoc]⟩)

theorem exists_path_of_isAbout (about : e.isAbout list i = true) :
    ∃ part : List Char, e.field.toList = (itemPath list i).toList ++ part := by
  rcases isAbout_iff.1 about with field | ⟨part, field⟩
  · exact ⟨[], by rw [field, List.append_nil]⟩
  · exact ⟨'.' :: part.toList, by simp [field]⟩

/-- An error is about one item at most. -/
theorem isAbout_unique (plain : '[' ∉ list.toList) (plain' : '[' ∉ list'.toList)
    (about : e.isAbout list i = true) (about' : e.isAbout list' j = true) :
    list = list' ∧ i = j := by
  obtain ⟨part, field⟩ := exists_path_of_isAbout about
  obtain ⟨part', field'⟩ := exists_path_of_isAbout about'
  exact itemPath_append_injective plain plain' (field.symm.trans field')

/-- An error at a field of no list is about no item. -/
theorem isAbout_eq_false (unlisted : '[' ∉ e.field.toList) : e.isAbout list i = false := by
  rw [← Bool.not_eq_true]
  intro about
  obtain ⟨part, field⟩ := exists_path_of_isAbout about
  exact unlisted (by simp [field, toList_itemPath])

end ValidationError

namespace Validation

variable {α : Type} {list list' : String} {i : ℕ} {field path : String} {rule : Rule}
  {broken : Bool} {year : Option Period} {taxpayer : TaxpayerProfile} {e : ValidationError}

/-! ### Where each check reports -/

theorem field_of_mem_errorIf (member : e ∈ errorIf broken field rule) : e.field = field := by
  unfold errorIf at member
  split at member <;> simp_all

theorem field_of_mem_errorOf {violation : Option Rule} (member : e ∈ errorOf field violation) :
    e.field = field := by
  obtain ⟨rule, -, rfl⟩ := List.mem_map.1 member
  rfl

theorem field_of_mem_birthErrors {birth : Date} (member : e ∈ birthErrors field birth year) :
    e.field = field :=
  field_of_mem_errorIf member

theorem field_of_mem_amountErrors {a : Decimal} (member : e ∈ amountErrors field a) :
    e.field = field := by
  simp only [amountErrors, List.mem_append] at member
  rcases member with (sign | range) | precision
  · exact field_of_mem_errorIf sign
  · exact field_of_mem_errorIf range
  · exact field_of_mem_errorIf precision

theorem field_of_mem_periodErrors {period : Period} (member : e ∈ periodErrors field period year) :
    e.field = field := by
  unfold periodErrors at member
  split at member
  · rw [List.mem_singleton.1 member]
  · exact field_of_mem_errorIf member

theorem field_of_mem_referenceErrors {reference : PartnerReference}
    (member : e ∈ referenceErrors field reference taxpayer) : e.field = field := by
  unfold referenceErrors at member
  split at member
  · split at member
    · rw [List.mem_singleton.1 member]
    · exact field_of_mem_errorIf member
  · exact field_of_mem_errorIf member

theorem unlisted_of_mem_profileErrors {profile : TaxpayerProfile} (plain : '[' ∉ path.toList)
    (member : e ∈ profileErrors path profile year) : '[' ∉ e.field.toList := by
  have parts : e.field = path ++ ".bsn" ∨ e.field = path ++ ".foreign_tax_id" ∨
      e.field = path ++ ".date_of_birth" ∨ e.field = path ++ ".postal_code" := by
    simp only [profileErrors, List.mem_append] at member
    rcases member with ((number | foreign) | birth) | code
    · split at number
      · cases number
      · exact .inl (field_of_mem_errorOf number)
    · exact .inr (.inl (field_of_mem_errorIf foreign))
    · exact .inr (.inr (.inl (field_of_mem_birthErrors birth)))
    · exact .inr (.inr (.inr (field_of_mem_errorOf code)))
  rcases parts with field | field | field | field <;> simp [field, plain]

/-! ### The errors about an item -/

/-- Every error of a check is about the item that is checked. -/
def ReportsAbout (list : String) (check : ℕ → α → List ValidationError) : Prop :=
  ∀ i item, ∀ e ∈ check i item, e.isAbout list i = true

theorem reportsAbout_birthErrors : ReportsAbout "dependents" fun index (dependent : Dependent) =>
    birthErrors (itemPath "dependents" index ++ ".date_of_birth") dependent.dateOfBirth year :=
  fun _ _ _ member =>
    ValidationError.isAbout_of_field "date_of_birth" (field_of_mem_birthErrors member)

theorem reportsAbout_incomeErrors : ReportsAbout "income" (incomeErrors year) := by
  intro i record e member
  simp only [incomeErrors, List.mem_append] at member
  rcases member with ((gross | withholding) | compared) | period
  · exact ValidationError.isAbout_of_field "gross_amount" (field_of_mem_amountErrors gross)
  · exact ValidationError.isAbout_of_field "withholding" (field_of_mem_amountErrors withholding)
  · exact ValidationError.isAbout_of_field "withholding" (field_of_mem_errorIf compared)
  · exact ValidationError.isAbout_of_field "period" (field_of_mem_periodErrors period)

theorem reportsAbout_deductionErrors :
    ReportsAbout "deductions" (deductionErrors year taxpayer) := by
  intro i claim e member
  simp only [deductionErrors, List.mem_append, List.mem_flatMap] at member
  rcases member with (amount | period) | ⟨reference, -, shared⟩
  · exact ValidationError.isAbout_of_field "amount" (field_of_mem_amountErrors amount)
  · exact ValidationError.isAbout_of_field "period" (field_of_mem_periodErrors period)
  · exact ValidationError.isAbout_of_field "shared_with" (field_of_mem_referenceErrors shared)

theorem reportsAbout_creditErrors : ReportsAbout "credits" (creditErrors year) := by
  intro i claim e member
  simp only [creditErrors, List.mem_append] at member
  rcases member with amount | period
  · exact ValidationError.isAbout_of_field "amount" (field_of_mem_amountErrors amount)
  · exact ValidationError.isAbout_of_field "period" (field_of_mem_periodErrors period)

/-- Whether a claim repeats one of the claims before it. -/
def repeatErrors (list : String) (repeats : α → α → Bool) (claims : List α) (index : ℕ)
    (later : α) : List ValidationError :=
  errorIf ((claims.take index).any (repeats · later)) (itemPath list index) .duplicateClaim

theorem repeatErrors_eq_nil_iff {repeats : α → α → Bool} {claims : List α} {later : α} :
    repeatErrors list repeats claims i later = [] ↔
      ∀ earlier ∈ claims.take i, repeats earlier later = false := by
  simp [repeatErrors]

theorem reportsAbout_repeatErrors {repeats : α → α → Bool} {claims : List α} :
    ReportsAbout list (repeatErrors list repeats claims) :=
  fun _ _ _ member => ValidationError.isAbout_iff.2 (.inl (field_of_mem_errorIf member))

variable {check : ℕ → α → List ValidationError} {errors : List ValidationError}

/-- Errors at fields of no list are about no item. -/
theorem filter_isAbout_eq_nil (unlisted : ∀ e ∈ errors, '[' ∉ e.field.toList) :
    errors.filter (·.isAbout list i) = [] := by
  rw [List.filter_eq_nil_iff]
  intro e member
  rw [ValidationError.isAbout_eq_false (unlisted e member)]
  exact Bool.false_ne_true

theorem filter_check_of_ne (reports : ReportsAbout list check) (plain : '[' ∉ list.toList)
    (plain' : '[' ∉ list'.toList) {j : ℕ} (other : list = list' → j ≠ i) (item : α) :
    (check j item).filter (·.isAbout list' i) = [] := by
  rw [List.filter_eq_nil_iff]
  intro e member about
  obtain ⟨same, place⟩ :=
    ValidationError.isAbout_unique plain plain' (reports j item e member) about
  exact other same place

/-- The checks of another list say nothing about an item. -/
theorem filter_eachErrors_of_ne (reports : ReportsAbout list check) (plain : '[' ∉ list.toList)
    (plain' : '[' ∉ list'.toList) (other : list ≠ list') (items : List α) :
    (eachErrors check items).filter (·.isAbout list' i) = [] := by
  rw [eachErrors, List.filter_flatMap, List.flatMap_eq_nil_iff]
  rintro ⟨item, j⟩ -
  exact filter_check_of_ne reports plain plain' (absurd · other) item

/-- Of all checks of a list, the one of an item says all that is said about it. -/
theorem filter_eachErrors (reports : ReportsAbout list check) (plain : '[' ∉ list.toList)
    (items : List α) : (eachErrors check items).filter (·.isAbout list i) =
      (items[i]?).toList.flatMap (check i) := by
  -- Indices are counted from any start, so that the induction can drop the first item.
  have counted (start i : ℕ) : ((items.zipIdx start).flatMap fun entry =>
      (check entry.2 entry.1).filter (·.isAbout list (start + i))) =
        (items[i]?).toList.flatMap (check (start + i)) := by
    induction items generalizing start i with
    | nil => rfl
    | cons head rest ih =>
      rw [List.zipIdx_cons, List.flatMap_cons]
      dsimp only
      cases i with
      | zero =>
        have later : ((rest.zipIdx (start + 1)).flatMap fun entry =>
            (check entry.2 entry.1).filter (·.isAbout list start)) = [] := by
          rw [List.flatMap_eq_nil_iff]
          rintro ⟨item, j⟩ member
          have after := (List.mem_zipIdx member).1
          exact filter_check_of_ne reports plain plain (fun _ => by omega) item
        have all : (check start head).filter (·.isAbout list start) = check start head :=
          List.filter_eq_self.2 (reports start head)
        rw [Nat.add_zero, later, all]
        simp
      | succ i =>
        rw [filter_check_of_ne reports plain plain (fun _ => by omega) head, List.nil_append,
          ← Nat.succ_add_eq_add_succ, ih]
        rfl
  have whole := counted 0 i
  rw [Nat.zero_add] at whole
  rw [eachErrors, List.filter_flatMap]
  exact whole

end Validation

namespace Declaration

variable {d d' : Declaration} {year : Period} {i : ℕ}

/-- The errors about an item of a list, in the order of the checks. -/
def errorsAbout (d : Declaration) (list : String) (index : ℕ) : List ValidationError :=
  d.validate.filter (·.isAbout list index)

/-- The errors that the checks of entries report. -/
def entryErrors (d : Declaration) : List ValidationError :=
  eachErrors (fun index (dependent : Dependent) =>
      birthErrors (itemPath "dependents" index ++ ".date_of_birth") dependent.dateOfBirth
        d.supportedYear?) d.content.dependents ++
    eachErrors (incomeErrors d.supportedYear?) d.content.income ++
    eachErrors (deductionErrors d.supportedYear? d.content.taxpayer) d.content.deductions ++
    eachErrors (creditErrors d.supportedYear?) d.content.credits ++
    eachErrors (repeatErrors "deductions" repeatsDeduction d.content.deductions)
      d.content.deductions ++
    eachErrors (repeatErrors "credits" repeatsCredit d.content.credits) d.content.credits

/-- No other check says anything about an entry. -/
theorem errorsAbout_eq (d : Declaration) (list : String) :
    d.errorsAbout list i = d.entryErrors.filter (·.isAbout list i) := by
  have named {broken : Bool} {field : String} {rule : Rule} (plain : '[' ∉ field.toList) :
      (errorIf broken field rule).filter (·.isAbout list i) = [] :=
    filter_isAbout_eq_nil fun e member => field_of_mem_errorIf member ▸ plain
  have profile {path : String} {p : TaxpayerProfile} (plain : '[' ∉ path.toList) :
      (profileErrors path p d.supportedYear?).filter (·.isAbout list i) = [] :=
    filter_isAbout_eq_nil fun e member => unlisted_of_mem_profileErrors plain member
  have partner : (d.content.taxpayer.partner.toList.flatMap
      (referenceErrors "taxpayer.partner" · d.content.taxpayer)).filter (·.isAbout list i) = [] :=
    filter_isAbout_eq_nil fun e member => by
      obtain ⟨reference, -, member⟩ := List.mem_flatMap.1 member
      rw [field_of_mem_referenceErrors member]
      decide
  have fiscalPartner : (d.content.fiscalPartner.toList.flatMap
      (profileErrors "fiscal_partner" · d.supportedYear?)).filter (·.isAbout list i) = [] :=
    filter_isAbout_eq_nil fun e member => by
      obtain ⟨p, -, member⟩ := List.mem_flatMap.1 member
      exact unlisted_of_mem_profileErrors (by decide) member
  have account : (errorOf "refund_account" (d.content.refundAccount.bind Iban.violation)).filter
      (·.isAbout list i) = [] :=
    filter_isAbout_eq_nil fun e member => by
      rw [field_of_mem_errorOf member]
      decide
  have repeated (list : String) {α : Type} (repeats : α → α → Bool) (claims : List α) :
      duplicateErrors list repeats claims = eachErrors (repeatErrors list repeats claims) claims :=
    rfl
  simp only [errorsAbout, validate, fieldErrors, crossErrors, fiscalPartnerErrors,
    partialYearErrors, repeated, List.filter_append, partner, fiscalPartner, account]
  rw [named (by decide), profile (by decide), named (by decide), named (by decide),
    named (by decide), named (by decide)]
  simp [entryErrors]

theorem errorsAbout_dependents (d : Declaration) (i : ℕ) : d.errorsAbout "dependents" i =
    (d.content.dependents[i]?).toList.flatMap fun dependent =>
      birthErrors (itemPath "dependents" i ++ ".date_of_birth") dependent.dateOfBirth
        d.supportedYear? := by
  simp (disch := decide) only [errorsAbout_eq, entryErrors, List.filter_append,
    filter_eachErrors reportsAbout_birthErrors, filter_eachErrors_of_ne reportsAbout_incomeErrors,
    filter_eachErrors_of_ne reportsAbout_deductionErrors,
    filter_eachErrors_of_ne reportsAbout_creditErrors,
    filter_eachErrors_of_ne reportsAbout_repeatErrors, List.append_nil]

theorem errorsAbout_income (d : Declaration) (i : ℕ) : d.errorsAbout "income" i =
    (d.content.income[i]?).toList.flatMap (incomeErrors d.supportedYear? i) := by
  simp (disch := decide) only [errorsAbout_eq, entryErrors, List.filter_append,
    filter_eachErrors_of_ne reportsAbout_birthErrors, filter_eachErrors reportsAbout_incomeErrors,
    filter_eachErrors_of_ne reportsAbout_deductionErrors,
    filter_eachErrors_of_ne reportsAbout_creditErrors,
    filter_eachErrors_of_ne reportsAbout_repeatErrors, List.append_nil, List.nil_append]

theorem errorsAbout_deductions (d : Declaration) (i : ℕ) : d.errorsAbout "deductions" i =
    (d.content.deductions[i]?).toList.flatMap
        (deductionErrors d.supportedYear? d.content.taxpayer i) ++
      (d.content.deductions[i]?).toList.flatMap
        (repeatErrors "deductions" repeatsDeduction d.content.deductions i) := by
  simp (disch := decide) only [errorsAbout_eq, entryErrors, List.filter_append,
    filter_eachErrors_of_ne reportsAbout_birthErrors,
    filter_eachErrors_of_ne reportsAbout_incomeErrors,
    filter_eachErrors reportsAbout_deductionErrors,
    filter_eachErrors_of_ne reportsAbout_creditErrors, filter_eachErrors reportsAbout_repeatErrors,
    filter_eachErrors_of_ne reportsAbout_repeatErrors, List.append_nil, List.nil_append]

theorem errorsAbout_credits (d : Declaration) (i : ℕ) : d.errorsAbout "credits" i =
    (d.content.credits[i]?).toList.flatMap (creditErrors d.supportedYear? i) ++
      (d.content.credits[i]?).toList.flatMap
        (repeatErrors "credits" repeatsCredit d.content.credits i) := by
  simp (disch := decide) only [errorsAbout_eq, entryErrors, List.filter_append,
    filter_eachErrors_of_ne reportsAbout_birthErrors,
    filter_eachErrors_of_ne reportsAbout_incomeErrors,
    filter_eachErrors_of_ne reportsAbout_deductionErrors,
    filter_eachErrors reportsAbout_creditErrors, filter_eachErrors reportsAbout_repeatErrors,
    filter_eachErrors_of_ne reportsAbout_repeatErrors, List.append_nil, List.nil_append]

/-! ### What the errors about an entry depend on -/

theorem supportedYear?_congr (sameYear : d.taxYear = d'.taxYear) :
    d.supportedYear? = d'.supportedYear? := by
  rw [supportedYear?, supportedYear?, sameYear]

theorem errorsAbout_dependents_congr (sameYear : d.taxYear = d'.taxYear)
    (same : d.content.dependents[i]? = d'.content.dependents[i]?) :
    d.errorsAbout "dependents" i = d'.errorsAbout "dependents" i := by
  rw [errorsAbout_dependents, errorsAbout_dependents, same, supportedYear?_congr sameYear]

theorem errorsAbout_income_congr (sameYear : d.taxYear = d'.taxYear)
    (same : d.content.income[i]? = d'.content.income[i]?) :
    d.errorsAbout "income" i = d'.errorsAbout "income" i := by
  rw [errorsAbout_income, errorsAbout_income, same, supportedYear?_congr sameYear]

theorem deductionErrors_congr {year : Option Period} {taxpayer taxpayer' : TaxpayerProfile}
    (same : taxpayer.bsn = taxpayer'.bsn) :
    deductionErrors year taxpayer = deductionErrors year taxpayer' := by
  have references (path : String) (reference : PartnerReference) :
      referenceErrors path reference taxpayer = referenceErrors path reference taxpayer' := by
    cases reference <;> simp only [referenceErrors, same]
  funext i claim
  simp only [deductionErrors, references]

theorem repeatErrors_congr {α : Type} {list : String} {repeats : α → α → Bool}
    {claims claims' : List α} (same : claims.take i = claims'.take i) :
    repeatErrors list repeats claims i = repeatErrors list repeats claims' i := by
  funext later
  rw [repeatErrors, repeatErrors, same]

theorem getElem?_eq_of_take_eq {α : Type} {items items' : List α}
    (same : items.take (i + 1) = items'.take (i + 1)) :
    items[i]? = items'[i]? ∧ items.take i = items'.take i := by
  constructor
  · rw [← List.getElem?_take_of_succ (l := items), same, List.getElem?_take_of_succ]
  · have shorter := congrArg (List.take i) same
    rwa [List.take_take, List.take_take, Nat.min_eq_left (Nat.le_succ i)] at shorter

theorem errorsAbout_deductions_congr (sameYear : d.taxYear = d'.taxYear)
    (number : d.content.taxpayer.bsn = d'.content.taxpayer.bsn)
    (same : d.content.deductions.take (i + 1) = d'.content.deductions.take (i + 1)) :
    d.errorsAbout "deductions" i = d'.errorsAbout "deductions" i := by
  obtain ⟨claim, earlier⟩ := getElem?_eq_of_take_eq same
  rw [errorsAbout_deductions, errorsAbout_deductions, claim, supportedYear?_congr sameYear,
    deductionErrors_congr number, repeatErrors_congr earlier]

theorem errorsAbout_credits_congr (sameYear : d.taxYear = d'.taxYear)
    (same : d.content.credits.take (i + 1) = d'.content.credits.take (i + 1)) :
    d.errorsAbout "credits" i = d'.errorsAbout "credits" i := by
  obtain ⟨claim, earlier⟩ := getElem?_eq_of_take_eq same
  rw [errorsAbout_credits, errorsAbout_credits, claim, supportedYear?_congr sameYear,
    repeatErrors_congr earlier]

end Declaration

namespace Validation

/-! ### More entries -/

variable {α : Type} {check check' : ℕ → α → List ValidationError} {items more : List α}

theorem sublist_errorIf {broken broken' : Bool} (field : String) (rule : Rule)
    (worse : broken = true → broken' = true) :
    (errorIf broken field rule).Sublist (errorIf broken' field rule) := by
  cases broken with
  | false => exact List.nil_sublist _
  | true => rw [worse rfl]

/-- More items add their errors at the end, when the earlier ones are checked as before. -/
theorem sublist_eachErrors_append
    (same : ∀ i < items.length, check i = check' i) :
    (eachErrors check items).Sublist (eachErrors check' (items ++ more)) := by
  have before : eachErrors check items = eachErrors check' items :=
    List.flatMap_congr fun (item, i) member =>
      congrFun (same i (by simpa using List.snd_lt_of_mem_zipIdx member)) item
  rw [before, eachErrors, eachErrors, List.zipIdx_append, List.flatMap_append]
  exact List.sublist_append_left _ _

theorem sublist_duplicateErrors_append (list : String) (repeats : α → α → Bool) :
    (duplicateErrors list repeats items).Sublist (duplicateErrors list repeats (items ++ more)) :=
  sublist_eachErrors_append fun i inside => by
    funext later
    rw [List.take_append_of_le_length inside.le]

theorem days_nonneg (p : Period) : 0 ≤ p.days := p.days_eq_max.ge.trans' (le_max_left 0 _)

/-- More income is for at least as many days. -/
theorem sublist_partialYearErrors_append (category : DeclarationCategory)
    (income more : List IncomeRecord) :
    (partialYearErrors category income).Sublist (partialYearErrors category (income ++ more)) := by
  apply sublist_errorIf
  simp only [← List.sum_eq_foldl, Bool.and_eq_true, decide_eq_true_eq, List.map_append,
    List.sum_append]
  rintro ⟨migration, above⟩
  have added : 0 ≤ (more.map (·.period.days)).sum :=
    List.sum_nonneg (List.forall_mem_map.2 fun record _ => days_nonneg record.period)
  exact ⟨migration, by omega⟩

end Validation

/-- The contents with more entries at the end of each list. -/
def DeclarationContent.extended (content : DeclarationContent) (dependents : List Dependent)
    (income : List IncomeRecord) (deductions : List DeductionClaim) (credits : List CreditClaim) :
    DeclarationContent :=
  { content with
    dependents := content.dependents ++ dependents
    income := content.income ++ income
    deductions := content.deductions ++ deductions
    credits := content.credits ++ credits }

namespace Declaration

variable {d d' : Declaration} {year : Period}

/-- More entries remove no error and keep the order of the errors. -/
theorem sublist_validate_extended (d : Declaration) (dependents : List Dependent)
    (income : List IncomeRecord) (deductions : List DeductionClaim) (credits : List CreditClaim) :
    d.validate.Sublist
      { d with content := d.content.extended dependents income deductions credits }.validate := by
  have entries {α : Type} (check : ℕ → α → List ValidationError) (items more : List α) :
      (eachErrors check items).Sublist (eachErrors check (items ++ more)) :=
    sublist_eachErrors_append fun _ _ => rfl
  have fields : d.fieldErrors.Sublist (fieldErrors
      { d with content := d.content.extended dependents income deductions credits }) :=
    ((((((List.Sublist.refl _).append (entries _ _ dependents)).append (.refl _)).append
      (entries _ _ income)).append (entries _ _ deductions)).append (entries _ _ credits)).append
        (.refl _)
  have across : d.crossErrors.Sublist (crossErrors
      { d with content := d.content.extended dependents income deductions credits }) :=
    (((List.Sublist.refl _).append (sublist_partialYearErrors_append _ _ income)).append
      (sublist_duplicateErrors_append _ _)).append (sublist_duplicateErrors_append _ _)
  exact fields.append across

/-! ### All errors together -/

/-- Two declarations have the same errors about an entry that stands in both of them. About a claim
they have the same errors when the claims before it are the same, too, and about a deduction when
they are those of one taxpayer. -/
structure ReportsAlike (d d' : Declaration) : Prop where
  dependents : ∀ i, d.content.dependents[i]? = d'.content.dependents[i]? →
    d.errorsAbout "dependents" i = d'.errorsAbout "dependents" i
  income : ∀ i, d.content.income[i]? = d'.content.income[i]? →
    d.errorsAbout "income" i = d'.errorsAbout "income" i
  deductions : d.content.taxpayer.bsn = d'.content.taxpayer.bsn → ∀ i,
    d.content.deductions.take (i + 1) = d'.content.deductions.take (i + 1) →
      d.errorsAbout "deductions" i = d'.errorsAbout "deductions" i
  credits : ∀ i, d.content.credits.take (i + 1) = d'.content.credits.take (i + 1) →
    d.errorsAbout "credits" i = d'.errorsAbout "credits" i

/-- Only what is accepted has no error about it. -/
structure ReportsAll (d : Declaration) (year : Period) : Prop where
  dependents : ∀ i, ∀ dependent ∈ d.content.dependents[i]?,
    d.errorsAbout "dependents" i = [] ↔
      earliestBirth ≤ dependent.dateOfBirth ∧ dependent.dateOfBirth ≤ year.finish
  income : ∀ i, ∀ record ∈ d.content.income[i]?,
    d.errorsAbout "income" i = [] ↔ record.Accepted year
  deductions : ∀ i, ∀ claim ∈ d.content.deductions[i]?,
    d.errorsAbout "deductions" i = [] ↔ claim.Accepted year d.content.taxpayer ∧
      ∀ earlier ∈ d.content.deductions.take i, repeatsDeduction earlier claim = false
  credits : ∀ i, ∀ claim ∈ d.content.credits[i]?,
    d.errorsAbout "credits" i = [] ↔ claim.Accepted year ∧
      ∀ earlier ∈ d.content.credits.take i, repeatsCredit earlier claim = false

theorem reportsAlike (sameYear : d.taxYear = d'.taxYear) : d.ReportsAlike d' where
  dependents _ same := errorsAbout_dependents_congr sameYear same
  income _ same := errorsAbout_income_congr sameYear same
  deductions number _ same := errorsAbout_deductions_congr sameYear number same
  credits _ same := errorsAbout_credits_congr sameYear same

theorem reportsAll (found : d.supportedYear? = some year) : d.ReportsAll year where
  dependents i dependent member := by
    rw [errorsAbout_dependents, found, member, Option.toList_some, List.flatMap_singleton,
      birthErrors_eq_nil_iff]
  income i record member := by
    rw [errorsAbout_income, found, member, Option.toList_some, List.flatMap_singleton,
      incomeErrors_eq_nil_iff]
  deductions i claim member := by
    rw [errorsAbout_deductions, found, member, Option.toList_some, List.flatMap_singleton,
      List.flatMap_singleton, List.append_eq_nil_iff, deductionErrors_eq_nil_iff,
      repeatErrors_eq_nil_iff]
  credits i claim member := by
    rw [errorsAbout_credits, found, member, Option.toList_some, List.flatMap_singleton,
      List.flatMap_singleton, List.append_eq_nil_iff, creditErrors_eq_nil_iff,
      repeatErrors_eq_nil_iff]

/-- All errors are collected. Two declarations of one year have the same errors about an entry that
stands in both, however invalid the rest of either is; what is not accepted has an error about it;
and entries that are added at the end of the lists remove no error. -/
theorem collects_every_error (sameYear : d.taxYear = d'.taxYear) :
    d.ReportsAlike d' ∧ (∀ year, d.supportedYear? = some year → d.ReportsAll year) ∧
      ∀ dependents income deductions credits, d.validate.Sublist
        { d with content := d.content.extended dependents income deductions credits }.validate :=
  ⟨reportsAlike sameYear, fun _ found => reportsAll found, d.sublist_validate_extended⟩

end Declaration

open Decimal (unsigned) in
/-- A declaration in which the second deduction is shared with the taxpayer, who has no valid
number, and repeats the first one. -/
def NewDeclaration.sampleRepeated : NewDeclaration :=
  { sample2024 with
    content := { sample2024.content with
      taxpayer := { sample2024.content.taxpayer with bsn := "111222334" }
      deductions :=
        [⟨.gifts, unsigned 300 0, .in2024 (4, 6) (8, 20), none⟩,
          ⟨.gifts, unsigned 400005 4, .in2024 (8, 20) (4, 6), some (.bsn "111222334")⟩] } }

open Decimal (unsigned) in
/-- The same deductions in a declaration in which nothing else is in order. -/
def NewDeclaration.sampleRuined : NewDeclaration :=
  { sampleRepeated with
    category := .nonResident
    content :=
      { sampleRepeated.content with
        taxpayer := ⟨"111222334", .resident, ⟨1899, 5, 7, by decide, by decide⟩,
          some (.foreignTaxId ""), none, some "DE-1"⟩
        fiscalPartner :=
          some ⟨"", .resident, ⟨2025, 5, 7, by decide, by decide⟩, none, some "0", none⟩
        dependents := [⟨⟨2025, 5, 7, by decide, by decide⟩⟩]
        income := [⟨.employment, unsigned 1 0, .in2024 (8, 20) (4, 6), unsigned 2 3⟩]
        deductions := sampleRepeated.content.deductions ++
          [⟨.gifts, unsigned 1 3, .in2024 (4, 6) (8, 20), none⟩]
        refundAccount := some "" } }

namespace Declaration

/-- Four errors about one claim, among twenty errors or among fewer. -/
theorem collects_every_error_of_sampleRuined :
    let d := draft ⟨1⟩ .sampleRepeated
    let d' := draft ⟨2⟩ .sampleRuined
    d.taxYear = d'.taxYear ∧ d.errorsAbout "deductions" 1 = d'.errorsAbout "deductions" 1 ∧
      (d.errorsAbout "deductions" 1).map (·.rule) =
        [.amountPrecision, .periodReversed, .bsnChecksum, .duplicateClaim] ∧
      d'.validate.length = 20 := by
  intro d d'
  obtain ⟨alike, -, -⟩ := @collects_every_error d d' rfl
  have number : d.content.taxpayer.bsn = d'.content.taxpayer.bsn := rfl
  have same : d.content.deductions.take 2 = d'.content.deductions.take 2 := rfl
  exact ⟨rfl, alike.deductions number 1 same, by decide +kernel, by decide +kernel⟩

end Declaration

end IncomeTax
