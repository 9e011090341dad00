import FacetSearch.Proofs.AppliedFilters
/-!
# Pages

How the pages of one size lie over a result set. The number of pages is rounded up and the number
of a page is rounded down, and the two fit together: the windows that begin at the multiples of the
size, one for each page, hold every position exactly once. All of it is exact in 64 bits, where the
sum before a division that rounds up would not be.
-/

namespace FacetSearch

/-! ## Rounding up -/

/-- The quotient rounded up is the one of the natural numbers, also where the sum that gives it
there does not fit in 64 bits. -/
theorem toNat_divideUp {n d : UInt64} (hd : 0 < d.toNat) :
    (divideUp n d).toNat = (n.toNat + d.toNat - 1) / d.toNat := by
  have hn := n.toNat_lt
  have hparts := Nat.div_add_mod' n.toNat d.toNat
  have hrest := Nat.mod_lt n.toNat hd
  have hzero : n % d = 0 ↔ n.toNat % d.toNat = 0 := by
    rw [← UInt64.toNat_inj, UInt64.toNat_mod]
    rfl
  symm
  unfold divideUp
  split
  · next h =>
    have hexact := hzero.mp h
    rw [UInt64.toNat_div]
    apply Nat.div_eq_of_lt_le
    · omega
    · rw [Nat.succ_mul]
      omega
  · next h =>
    have hpos : 0 < n.toNat % d.toNat := Nat.pos_of_ne_zero fun he => h (hzero.mpr he)
    -- a quotient that is not exact has a divisor of at least two, so one more still fits
    have hfits : n.toNat / d.toNat + 1 < 2 ^ 64 := by
      have hhalf : n.toNat / d.toNat ≤ n.toNat / 2 := Nat.div_le_div_left (by omega) (by decide)
      omega
    rw [UInt64.toNat_add, UInt64.toNat_div, UInt64.toNat_one, Nat.mod_eq_of_lt hfits]
    apply Nat.div_eq_of_lt_le
    · rw [Nat.succ_mul]
      omega
    · rw [Nat.succ_mul, Nat.succ_mul]
      omega

/-- A number lies below the quotient exactly when its multiple of the divisor lies below the
dividend. -/
theorem lt_divideUp_iff {n d : UInt64} (hd : 0 < d.toNat) {k : Nat} :
    k < (divideUp n d).toNat ↔ k * d.toNat < n.toNat := by
  rw [toNat_divideUp hd, Nat.lt_iff_add_one_le, Nat.le_div_iff_mul_le hd, Nat.succ_mul]
  omega

/-! ## One window -/

namespace PageInfo

variable (start size total : UInt64)

/-- A page has at least one place. -/
theorem toNat_unit : (max size 1).toNat = max size.toNat 1 := by
  change (if size ≤ 1 then 1 else size).toNat = _
  split
  · next h => exact (Nat.max_eq_right (UInt64.le_iff_toNat_le.mp h)).symm
  · next h =>
    have hle : 1 ≤ size.toNat := by
      rw [UInt64.le_iff_toNat_le, UInt64.toNat_one] at h
      omega
    exact (Nat.max_eq_left hle).symm

theorem toNat_pageNumber :
    (PageInfo.of start size total).pageNumber.toNat = start.toNat / max size.toNat 1 := by
  rw [← toNat_unit]
  exact UInt64.toNat_div ..

theorem toNat_totalPages : (PageInfo.of start size total).totalPages.toNat =
    (total.toNat + max size.toNat 1 - 1) / max size.toNat 1 := by
  rw [← toNat_unit]
  exact toNat_divideUp (by rw [toNat_unit]; omega)

theorem lt_totalPages_iff {k : Nat} : k < (PageInfo.of start size total).totalPages.toNat ↔
    k * max size.toNat 1 < total.toNat := by
  rw [← toNat_unit]
  exact lt_divideUp_iff (by rw [toNat_unit]; omega)

/-- A window that begins within the result set lies on one of its pages. -/
theorem pageNumber_lt_totalPages {start size total : UInt64} (h : start < total) :
    (PageInfo.of start size total).pageNumber < (PageInfo.of start size total).totalPages := by
  rw [UInt64.lt_iff_toNat_lt] at h ⊢
  rw [lt_totalPages_iff, toNat_pageNumber]
  exact Nat.lt_of_le_of_lt (Nat.div_mul_le_self ..) h

/-- A window that begins behind the last page lies on none. -/
theorem totalPages_le_pageNumber {start size total : UInt64}
    (h : (PageInfo.of start size total).totalPages.toNat * max size.toNat 1 ≤ start.toNat) :
    (PageInfo.of start size total).totalPages ≤ (PageInfo.of start size total).pageNumber := by
  rw [UInt64.le_iff_toNat_le, toNat_pageNumber, Nat.le_div_iff_mul_le (by omega)]
  exact h

/-! ## The pages of one size -/

/-- The position of the result set lies in the window. -/
def Shows (p : PageInfo) (position : Nat) : Prop :=
  p.start.toNat ≤ position ∧ position < p.start.toNat + p.size.toNat ∧ position < p.total.toNat

instance (p : PageInfo) (position : Nat) : Decidable (p.Shows position) :=
  inferInstanceAs (Decidable (_ ∧ _))

/-- How many pages of a size there are. -/
def count (size total : UInt64) : UInt64 := (PageInfo.of 0 size total).totalPages

/-- The window for the page with a number. -/
def page (size total number : UInt64) : PageInfo := .of (number * size) size total

variable {size total}

theorem lt_count_iff (h : 1 ≤ size) {k : UInt64} :
    k < count size total ↔ k.toNat * size.toNat < total.toNat := by
  have hsize : max size.toNat 1 = size.toNat := Nat.max_eq_left (UInt64.le_iff_toNat_le.mp h)
  rw [UInt64.lt_iff_toNat_lt, count, lt_totalPages_iff, hsize]

/-- No page begins where the product would wrap around. -/
theorem toNat_start_page (h : 1 ≤ size) {k : UInt64} (hk : k < count size total) :
    (page size total k).start.toNat = k.toNat * size.toNat := by
  have hfits := Nat.lt_trans ((lt_count_iff h).mp hk) total.toNat_lt
  exact (UInt64.toNat_mul ..).trans (Nat.mod_eq_of_lt hfits)

/-- A page shows the positions whose quotient by its size is its number. -/
theorem shows_page_iff (h : 1 ≤ size) {k : UInt64} (hk : k < count size total) {position : Nat} :
    (page size total k).Shows position ↔
      position < total.toNat ∧ position / size.toNat = k.toNat := by
  have hpos : 0 < size.toNat := UInt64.le_iff_toNat_le.mp h
  rw [Shows, toNat_start_page h hk, Nat.div_eq_iff hpos]
  change _ ∧ position < _ + size.toNat ∧ position < total.toNat ↔ _
  omega

/-- The pages of a size are numbered through and hold every position of the result set once. -/
structure Tiled (size total : UInt64) : Prop where
  starts : ∀ k < count size total, (page size total k).start.toNat = k.toNat * size.toNat
  numbered : ∀ k < count size total, (page size total k).pageNumber = k
  counted : ∀ k < count size total, (page size total k).totalPages = count size total
  nonempty : ∀ k < count size total, ∃ position, (page size total k).Shows position
  disjoint : ∀ j < count size total, ∀ k < count size total, j ≠ k →
    ∀ position, ¬ ((page size total j).Shows position ∧ (page size total k).Shows position)
  covered : ∀ position, position < total.toNat ↔
    ∃ k < count size total, (page size total k).Shows position

theorem tiled (h : 1 ≤ size) : Tiled size total := by
  have hpos : 0 < size.toNat := UInt64.le_iff_toNat_le.mp h
  constructor
  case starts => exact fun k => toNat_start_page h
  case numbered =>
    intro k hk
    have hstart := toNat_start_page h hk
    rw [← UInt64.toNat_inj, page, toNat_pageNumber, Nat.max_eq_left hpos]
    rw [show (k * size).toNat = k.toNat * size.toNat from hstart, Nat.mul_div_cancel _ hpos]
  case counted => exact fun _ _ => rfl
  case nonempty =>
    intro k hk
    refine ⟨k.toNat * size.toNat, (shows_page_iff h hk).mpr ⟨(lt_count_iff h).mp hk, ?_⟩⟩
    exact Nat.mul_div_cancel _ hpos
  case disjoint =>
    rintro j hj k hk hne position ⟨hshow, hshow'⟩
    refine hne (UInt64.toNat_inj.mp ?_)
    rw [← ((shows_page_iff h hj).mp hshow).2, ((shows_page_iff h hk).mp hshow').2]
  case covered =>
    intro position
    constructor
    · intro hposition
      have hle : position / size.toNat ≤ position := Nat.div_le_self ..
      have hnumber : (UInt64.ofNat (position / size.toNat)).toNat = position / size.toNat :=
        UInt64.toNat_ofNat_of_lt' (Nat.lt_of_le_of_lt hle (Nat.lt_trans hposition total.toNat_lt))
      have hk : UInt64.ofNat (position / size.toNat) < count size total := by
        rw [lt_count_iff h, hnumber]
        exact Nat.lt_of_le_of_lt (Nat.div_mul_le_self ..) hposition
      exact ⟨_, hk, (shows_page_iff h hk).mpr ⟨hposition, hnumber.symm⟩⟩
    · rintro ⟨k, hk, hshow⟩
      exact ((shows_page_iff h hk).mp hshow).1

end PageInfo

/-! ## The page of a search -/

namespace Domain

/-- The page that results come with is the window of the request, and has places. -/
theorem page_of_decompile {d : Domain} {r : Request} {q : CompiledQuery}
    {response : EngineResponse} {results : Results} (hq : d.compile r = .ok q)
    (h : d.decompile r q response = .ok results) :
    1 ≤ r.page.size ∧ results.page = .of r.page.start r.page.size response.total := by
  obtain ⟨hpage, _, _, _, _, rfl⟩ := compile_eq_ok_iff.mp hq
  obtain ⟨_, _, hresults⟩ := bind_eq_ok_iff.mp h
  rw [← pure_eq_ok_iff.mp hresults]
  exact ⟨(checkPage_eq_ok_iff.mp hpage).1, rfl⟩

end Domain

/-- The pages of a size that is not zero tile the result set. Wherever a window begins, the count of
the pages and the number of its page are the exact quotients, it lies on a page when it begins
within the result set, and on none when it begins behind the last page; a size of zero does as one.
The page that comes with the results of a search is such a window, of a size that is not zero. -/
theorem PageInfo.pages_tile (size total : UInt64) :
    (1 ≤ size → PageInfo.Tiled size total) ∧
    (∀ start, (PageInfo.of start size total).totalPages.toNat =
        (total.toNat + max size.toNat 1 - 1) / max size.toNat 1 ∧
      (PageInfo.of start size total).pageNumber.toNat = start.toNat / max size.toNat 1) ∧
    (∀ start, start < total →
      (PageInfo.of start size total).pageNumber < (PageInfo.of start size total).totalPages) ∧
    (∀ start : UInt64,
      (PageInfo.of start size total).totalPages.toNat * max size.toNat 1 ≤ start.toNat →
      (PageInfo.of start size total).totalPages ≤ (PageInfo.of start size total).pageNumber) ∧
    (∀ start, PageInfo.of start 0 total = { PageInfo.of start 1 total with size := 0 }) ∧
    ∀ (d : Domain) (r : Request) (q : CompiledQuery) (response : EngineResponse)
      (results : Results), d.compile r = .ok q → d.decompile r q response = .ok results →
      1 ≤ r.page.size ∧ results.page = .of r.page.start r.page.size response.total := by
  refine ⟨tiled, fun start => ?_, fun _ => pageNumber_lt_totalPages,
    fun _ => totalPages_le_pageNumber, fun _ => rfl, fun _ _ _ _ _ => Domain.page_of_decompile⟩
  exact ⟨toNat_totalPages start size total, toNat_pageNumber start size total⟩

/-- The pages reach to the largest total that there is: the last of them begins five places before
it, where the next multiple of the size no longer fits. A window may begin behind the last page,
and two hits fill part of the first page of a search. -/
theorem PageInfo.pages_tile_largest :
    ((1 : UInt64) ≤ 10 ∧ PageInfo.Tiled 10 18446744073709551615 ∧
      (PageInfo.page 10 18446744073709551615 1844674407370955161).Shows 18446744073709551614) ∧
    ((18446744073709551614 : UInt64) < 18446744073709551615 ∧
      (PageInfo.of 18446744073709551614 10 18446744073709551615).pageNumber <
        (PageInfo.of 18446744073709551614 10 18446744073709551615).totalPages) ∧
    ((PageInfo.of 50 10 45).totalPages.toNat * max (10 : UInt64).toNat 1 ≤ (50 : UInt64).toNat ∧
      (PageInfo.of 50 10 45).totalPages ≤ (PageInfo.of 50 10 45).pageNumber) ∧
    ∃ q results, bookshop.compile verseRequest = .ok q ∧
      bookshop.decompile verseRequest q Domain.verseAnswer = .ok results ∧
      results.page = .of 0 10 2 := by
  obtain ⟨htiled, _, hwithin, _⟩ := PageInfo.pages_tile 10 18446744073709551615
  obtain ⟨_, _, _, hbehind, _, hresults⟩ := PageInfo.pages_tile 10 45
  have hpositive : (1 : UInt64) ≤ 10 := by decide
  have hlast : (18446744073709551614 : UInt64) < 18446744073709551615 := by decide
  have hover : (PageInfo.of 50 10 45).totalPages.toNat * max (10 : UInt64).toNat 1 ≤
    (50 : UInt64).toNat := by decide
  refine ⟨⟨hpositive, htiled hpositive, by decide⟩, ⟨hlast, hwithin _ hlast⟩,
    ⟨hover, hbehind _ hover⟩, _, _, rfl, rfl, ?_⟩
  exact (hresults bookshop verseRequest _ Domain.verseAnswer _ rfl rfl).2

end FacetSearch
