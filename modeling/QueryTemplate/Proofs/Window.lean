import QueryTemplate.Proofs.Arithmetic
import QueryTemplate.Proofs.Values
import QueryTemplate.Statement.Paging

/-!
# The window of a page

Paging adds two parameters to a statement: the number of rows of a page, and the number of rows
before it.  Their values are fixed with them, so neither the parameter of the statement nor a
binding of the same name changes them.  Both numbers are signed words for every size and every
number of a page, also where they are worked out on words; and the pages of one size are windows
that lie side by side, up to the page before which more rows lie than a word can count.

* `toInt_limitWord`, `toInt_offsetWord`: nothing wraps around on words.
* `pageOffset_add_one_iff`: one page and the next.
* `mem_pageWindow_iff`: which page a row is on; `pairwiseDisjoint_pageWindow` and
  `iUnion_pageWindow`: the rows of all pages up to one.
* `Statement.values_addWindow`: what one more parameter resolves to.
* `Statement.page_window`: all of it for a statement.
-/

namespace QueryTemplate

open Outcome

/-! ### Limit and offset -/

section

variable {size number : Int}

theorem one_le_pageLimit (size : Int) : 1 ≤ pageLimit size :=
  le_max_right _ _

theorem pageLimit_nonneg (size : Int) : 0 ≤ pageLimit size :=
  Int.le_trans (by decide) (one_le_pageLimit size)

theorem isWord_pageLimit (h : IsWord size) : IsWord (pageLimit size) := by
  have hone : IsWord 1 := by decide
  rw [pageLimit]
  rcases max_choice size 1 with hmax | hmax
  · rwa [hmax]
  · rwa [hmax]

theorem pageOffset_nonneg (size number : Int) : 0 ≤ pageOffset size number := by
  have hbefore : 0 ≤ max number 1 - 1 := by omega
  exact le_min (Int.mul_nonneg hbefore (pageLimit_nonneg size)) (by decide)

theorem isWord_pageOffset (size number : Int) : IsWord (pageOffset size number) :=
  ⟨Int.le_trans (by decide) (pageOffset_nonneg size number), min_le_right _ _⟩

/-- The rows before a page are those of the pages before it, cut off at the largest word. -/
theorem pageOffset_of_one_le (hfirst : 1 ≤ number) :
    pageOffset size number = min ((number - 1) * pageLimit size) maxSigned := by
  rw [pageOffset, max_eq_left hfirst]

end

/-! ### On signed words -/

def limitWord (size : Int64) : Int64 :=
  max size 1

/-- The number of rows before a page, worked out on signed words: by a difference that can wrap
around, and a product that stops at the smallest and at the largest word. -/
def offsetWord (size number : Int64) : Int64 :=
  Int64.ofIntClamp ((max number 1 - 1).toInt * (limitWord size).toInt)

theorem isWord_toInt (a : Int64) : IsWord a.toInt :=
  ⟨a.le_toInt, Int.le_sub_one_of_lt a.toInt_lt⟩

theorem toInt_max (a b : Int64) : (max a b).toInt = max a.toInt b.toInt := by
  rw [show max a b = if a ≤ b then b else a from rfl, max_def]
  by_cases h : a ≤ b
  · rw [if_pos h, if_pos (Int64.le_iff_toInt_le.mp h)]
  · rw [if_neg h, if_neg (fun hle => h (Int64.le_iff_toInt_le.mpr hle))]

theorem toInt_ofIntClamp_of_nonneg {n : Int} (h : 0 ≤ n) :
    (Int64.ofIntClamp n).toInt = min n maxSigned := by
  have hlow : Int64.minValue.toInt ≤ n := Int.le_trans (by decide) h
  by_cases hhigh : n ≤ Int64.maxValue.toInt
  · rw [Int64.toInt_ofIntClamp hlow hhigh]
    exact (min_eq_left hhigh).symm
  · rw [Int64.ofIntClamp, dif_pos hlow, dif_neg hhigh]
    exact (min_eq_right (Int.le_of_lt (Int.not_le.mp hhigh))).symm

theorem toInt_limitWord (size : Int64) : (limitWord size).toInt = pageLimit size.toInt :=
  toInt_max size 1

/-- **The number of rows before a page does not wrap around.**  A page has a number that is at
least one, so one can be taken off it, and no factor of the product is negative. -/
theorem toInt_offsetWord (size number : Int64) :
    (offsetWord size number).toInt = pageOffset size.toInt number.toInt := by
  have hfirst : (1 : Int64) ≤ max number 1 := by
    rw [Int64.le_iff_toInt_le, toInt_max]
    exact le_max_right _ _
  have hbefore : (max number 1 - 1).toInt = max number.toInt 1 - 1 := by
    rw [Int64.toInt_sub_of_le _ _ (by decide) hfirst, toInt_max]
    rfl
  have hnonneg : 0 ≤ (max number.toInt 1 - 1) * pageLimit size.toInt :=
    Int.mul_nonneg (by omega) (pageLimit_nonneg _)
  rw [offsetWord, hbefore, toInt_limitWord, toInt_ofIntClamp_of_nonneg hnonneg]
  rfl

/-! ### Windows of rows -/

def pageWindow (size number : Int) : Set Int :=
  Set.Ico (pageOffset size number) (pageOffset size number + pageLimit size)

section

variable {size page last row : Int}

/-- **A page starts where the page before it ends**, exactly as long as a word can count the rows
before it. -/
theorem pageOffset_add_one_iff (hfirst : 1 ≤ page) :
    pageOffset size (page + 1) = pageOffset size page + pageLimit size ↔
      page * pageLimit size ≤ maxSigned := by
  have hlimit := one_le_pageLimit size
  have hproduct : page * pageLimit size = (page - 1) * pageLimit size + pageLimit size := by
    rw [Int.sub_mul, Int.one_mul, Int.sub_add_cancel]
  rw [pageOffset_of_one_le (by omega), pageOffset_of_one_le hfirst, Int.add_sub_cancel]
  omega

/-- A row is on the page that its number divided by the size of a page gives. -/
theorem mem_pageWindow_iff (hfirst : 1 ≤ page) (h : (page - 1) * pageLimit size ≤ maxSigned) :
    row ∈ pageWindow size page ↔ row / pageLimit size + 1 = page := by
  have hpos : 0 < pageLimit size := one_le_pageLimit size
  rw [pageWindow, pageOffset_of_one_le hfirst, min_eq_left h, Set.mem_Ico,
    ← Int.ediv_eq_iff_of_pos hpos]
  omega

theorem mul_pageLimit_le (h : (last - 1) * pageLimit size ≤ maxSigned) (hpage : page ≤ last) :
    (page - 1) * pageLimit size ≤ maxSigned :=
  Int.le_trans (Int.mul_le_mul_of_nonneg_right (by omega) (pageLimit_nonneg size)) h

theorem pairwiseDisjoint_pageWindow (h : (last - 1) * pageLimit size ≤ maxSigned) :
    (Set.Icc 1 last).PairwiseDisjoint (pageWindow size) := by
  intro m hm n hn hne
  rw [Function.onFun, Set.disjoint_left]
  intro row hrow hrow'
  rw [mem_pageWindow_iff hm.1 (mul_pageLimit_le h hm.2)] at hrow
  rw [mem_pageWindow_iff hn.1 (mul_pageLimit_le h hn.2)] at hrow'
  exact hne (hrow.symm.trans hrow')

theorem iUnion_pageWindow (h : (last - 1) * pageLimit size ≤ maxSigned) :
    ⋃ page ∈ Set.Icc 1 last, pageWindow size page = Set.Ico 0 (last * pageLimit size) := by
  have hpos : 0 < pageLimit size := one_le_pageLimit size
  ext row
  have hfirst : 0 ≤ row ↔ 1 ≤ row / pageLimit size + 1 := by
    have := Int.ediv_nonneg_iff_of_pos hpos (a := row)
    omega
  have hlast : row < last * pageLimit size ↔ row / pageLimit size + 1 ≤ last := by
    rw [← Int.ediv_lt_iff_lt_mul hpos]
    omega
  rw [Set.mem_iUnion₂, Set.mem_Ico, hfirst, hlast]
  constructor
  · rintro ⟨page, hpage, hrow⟩
    rw [mem_pageWindow_iff hpage.1 (mul_pageLimit_le h hpage.2)] at hrow
    rw [hrow]
    exact hpage
  · intro hpage
    exact ⟨_, hpage, (mem_pageWindow_iff hpage.1 (mul_pageLimit_le h hpage.2)).mpr rfl⟩

end

/-! ### The parameters of a page -/

theorem Argument.ofValue_ofInt {n : Int} (h : IsWord n) : ofValue (.ofInt n) none = .bigint n := by
  show ofNumber (.ofInt n) = _
  rw [Number.ofInt_of_isWord h, ofNumber, if_pos h.2]

namespace Statement

section

variable (s : Statement) (d : Dialect) (e : Evaluator) (parameter : Value)

theorem values_addWindow (keyword : String) (value : Int) :
    (s.addWindow d keyword value).values e parameter =
      (s.values e parameter).map (· ++ [.ofInt value]) := by
  have hnew : s.valueOf e parameter (.fixed keyword (.ofInt value)) = .ok (.ofInt value) :=
    valueOf_of_value rfl
  show (s.mappings ++ [Mapping.fixed keyword (.ofInt value)]).mapM (s.valueOf e parameter) = _
  rw [List.mapM_append, List.mapM_cons, hnew, values]
  cases s.mappings.mapM (s.valueOf e parameter) with
  | error fault => rfl
  | ok values => rfl

theorem values_page (size number : Int) :
    (s.page d size number).values e parameter = (s.values e parameter).map
      (· ++ [.ofInt (pageLimit size), .ofInt (pageOffset size number)]) := by
  rw [page, values_addWindow, values_addWindow]
  cases s.values e parameter with
  | error fault => rfl
  | ok values => exact congrArg Except.ok (List.append_assoc _ _ _)

theorem arguments_addWindow (keyword : String) {value : Int} (h : IsWord value) :
    (s.addWindow d keyword value).arguments e parameter =
      (s.arguments e parameter).map (· ++ [.bigint value]) := by
  rw [arguments, arguments, values_addWindow]
  cases hvalues : s.values e parameter with
  | error fault => rfl
  | ok values =>
    have hlength : s.mappings.length = values.length := (length_of_mapM_eq_ok hvalues).symm
    have hall : List.zipWith (fun m v => Argument.ofValue v m.jdbcType)
        (s.mappings ++ [Mapping.fixed keyword (.ofInt value)]) (values ++ [.ofInt value]) =
        List.zipWith (fun m v => Argument.ofValue v m.jdbcType) s.mappings values ++
          [.bigint value] := by
      rw [List.zipWith_append hlength, ← Argument.ofValue_ofInt h]
      rfl
    exact congrArg Except.ok hall

theorem arguments_page {size : Int} (h : IsWord size) (number : Int) :
    (s.page d size number).arguments e parameter = (s.arguments e parameter).map
      (· ++ [.bigint (pageLimit size), .bigint (pageOffset size number)]) := by
  rw [page, arguments_addWindow _ d e parameter "offset" (isWord_pageOffset size number),
    arguments_addWindow _ d e parameter "limit" (isWord_pageLimit h)]
  cases s.arguments e parameter with
  | error fault => rfl
  | ok arguments => exact congrArg Except.ok (List.append_assoc _ _ _)

end

/-- **A page is a window of rows.**  Paging adds the number of rows of a page and the number of
rows before it as the last two parameters of a statement.  Whatever the other parameters are, these
two have their own values, which are those of a computation on signed words; and the windows of
pages of one size lie side by side as long as a word can count the rows before them. -/
theorem page_window (s : Statement) (d : Dialect) (size number : Int64) :
    let limit := max size.toInt 1
    let offset := min ((max number.toInt 1 - 1) * limit) (2 ^ 63 - 1)
    let paged := s.page d size.toInt number.toInt
    (1 ≤ limit ∧ (limitWord size).toInt = limit) ∧
    (0 ≤ offset ∧ (offsetWord size number).toInt = offset) ∧
    paged.mappings = s.mappings ++
      [.fixed "limit" (.ofInt limit), .fixed "offset" (.ofInt offset)] ∧
    (∀ e parameter,
      paged.values e parameter =
        (s.values e parameter).map (· ++ [.ofInt limit, .ofInt offset]) ∧
      paged.arguments e parameter =
        (s.arguments e parameter).map (· ++ [.bigint limit, .bigint offset])) ∧
    pageWindow size.toInt number.toInt = Set.Ico offset (offset + limit) ∧
    (∀ page, 1 ≤ page →
      (pageOffset size.toInt (page + 1) = pageOffset size.toInt page + limit ↔
        page * limit < 2 ^ 63)) ∧
    ∀ last, (last - 1) * limit < 2 ^ 63 →
      (Set.Icc 1 last).PairwiseDisjoint (pageWindow size.toInt) ∧
      ⋃ page ∈ Set.Icc 1 last, pageWindow size.toInt page = Set.Ico 0 (last * limit) := by
  intro limit offset paged
  refine ⟨⟨one_le_pageLimit _, toInt_limitWord size⟩,
    ⟨pageOffset_nonneg _ _, toInt_offsetWord size number⟩, List.append_assoc _ _ _,
    fun e parameter => ⟨values_page s d e parameter _ _,
      arguments_page s d e parameter (isWord_toInt size) _⟩,
    rfl, fun page hpage => ?_, fun last hlast => ?_⟩
  · exact (pageOffset_add_one_iff hpage).trans Int.le_sub_one_iff
  · have hcounted : (last - 1) * pageLimit size.toInt ≤ maxSigned := Int.le_sub_one_of_lt hlast
    exact ⟨pairwiseDisjoint_pageWindow hcounted, iUnion_pageWindow hcounted⟩

/-- The largest size and number, where a mapping and two bindings have the names of the new
parameters. -/
theorem page_window_largest :
    let s : Statement :=
      { sql := "select a from t where b < ?", mappings := [{ property := "limit" }],
        bindings := [("limit", .string "own"), ("offset", .null)] }
    (s.page .mySQL Int64.maxValue.toInt Int64.maxValue.toInt).values .standard (.ofInt 5) =
      .ok [.string "own", .ofInt (2 ^ 63 - 1), .ofInt (2 ^ 63 - 1)] ∧
    (2 - 1) * max Int64.maxValue.toInt 1 < 2 ^ 63 ∧
    ⋃ page ∈ Set.Icc 1 2, pageWindow Int64.maxValue.toInt page = Set.Ico 0 (2 * (2 ^ 63 - 1)) := by
  intro s
  obtain ⟨-, -, -, hvalues, -, -, hwindows⟩ :=
    page_window s .mySQL Int64.maxValue Int64.maxValue
  have hown : s.values .standard (.ofInt 5) = .ok [.string "own"] := by cbv
  have hcounted : (2 - 1) * max Int64.maxValue.toInt 1 < 2 ^ 63 := by decide
  refine ⟨?_, hcounted, (hwindows 2 hcounted).2⟩
  rw [(hvalues .standard (.ofInt 5)).1, hown]
  rfl

end Statement

end QueryTemplate
