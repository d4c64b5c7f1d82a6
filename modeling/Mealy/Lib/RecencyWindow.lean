import Mathlib

/-! The newest rows of a history under a bound on their number and on their total size,
as a query selects them: each row is ranked from the newest, with a running total. -/

namespace RecencyWindow

variable {α : Type*} (size : α → Nat)

variable {rows later earlier : List α}

def total (rows : List α) : Nat := (rows.map size).sum

def ranked (limit bytes : Nat) : Nat → Nat → List α → List α
  | _, _, [] => []
  | rank, sum, row :: rest =>
    let kept := ranked limit bytes (rank + 1) (sum + size row) rest
    if rank + 1 ≤ limit ∧ sum + size row ≤ bytes then row :: kept else kept

/-- The window of a history in chronological order. -/
def newest (limit bytes : Nat) (rows : List α) : List α := (ranked size limit bytes 0 0 rows.reverse).reverse

/-- The longest run of newest rows within the bounds. -/
structure IsNewest (limit bytes : Nat) (rows kept : List α) : Prop where
  suffix : kept <:+ rows
  count : kept.length ≤ limit
  fits : total size kept ≤ bytes
  longest : ∀ other, other <:+ rows → other.length ≤ limit → total size other ≤ bytes → other.length ≤ kept.length

variable {size}

@[simp] theorem total_nil : total size [] = 0 := rfl

@[simp] theorem total_cons (row : α) (rows : List α) : total size (row :: rows) = size row + total size rows := by
  simp [total]

@[simp] theorem total_append (first second : List α) :
    total size (first ++ second) = total size first + total size second := by
  simp [total]

@[simp] theorem total_reverse (rows : List α) : total size rows.reverse = total size rows := by
  simp [total, List.sum_reverse]

theorem total_le_of_suffix {first second} (within : first <:+ second) :
    total size first ≤ total size second := by
  obtain ⟨older, rfl⟩ := within
  rw [total_append]
  omega

variable {limit bytes : Nat}

theorem ranked_exceeded {rank sum} (rows : List α) (exceeded : limit ≤ rank ∨ bytes < sum) :
    ranked size limit bytes rank sum rows = [] := by
  induction rows generalizing rank sum with
  | nil => rfl
  | cons row rest ih =>
    rw [ranked, if_neg (by omega)]
    apply ih
    omega

theorem ranked_append (rank sum) (first second : List α) :
    ranked size limit bytes rank sum (first ++ second) =
      ranked size limit bytes rank sum first ++
        ranked size limit bytes (rank + first.length) (sum + total size first) second := by
  induction first generalizing rank sum with
  | nil => simp [ranked]
  | cons row rest ih =>
    simp only [List.cons_append, ranked, ih, List.length_cons, total_cons]
    rw [show rank + 1 + rest.length = rank + (rest.length + 1) by omega, ← Nat.add_assoc sum]
    split <;> simp

theorem ranked_shift (size : α → Nat) {rank sum} (rows : List α) (within : rank ≤ limit) (fits : sum ≤ bytes) :
    ranked size limit bytes rank sum rows = ranked size (limit - rank) (bytes - sum) 0 0 rows := by
  have shifted (rank' sum' : Nat) : ranked size limit bytes (rank + rank') (sum + sum') rows =
      ranked size (limit - rank) (bytes - sum) rank' sum' rows := by
    induction rows generalizing rank' sum' with
    | nil => rfl
    | cons row rest ih =>
      have same : (rank + (rank' + 1) ≤ limit ∧ sum + (sum' + size row) ≤ bytes) ↔
          (rank' + 1 ≤ limit - rank ∧ sum' + size row ≤ bytes - sum) := by omega
      simp only [ranked, Nat.add_assoc rank, Nat.add_assoc sum, same, ih]
  exact shifted 0 0

theorem ranked_all {rank sum} (count : rank + rows.length ≤ limit)
    (fits : sum + total size rows ≤ bytes) : ranked size limit bytes rank sum rows = rows := by
  induction rows generalizing rank sum with
  | nil => rfl
  | cons row rest ih =>
    simp only [List.length_cons, total_cons] at count fits
    rw [ranked, if_pos (by omega), ih (by omega) (by omega)]

theorem ranked_cut (size : α → Nat) (limit bytes) (rows : List α) : ∃ older, rows = ranked size limit bytes 0 0 rows ++ older ∧
    (ranked size limit bytes 0 0 rows).length ≤ limit ∧ total size (ranked size limit bytes 0 0 rows) ≤ bytes ∧
    ∀ row rest, older = row :: rest → (ranked size limit bytes 0 0 rows).length < limit →
      bytes < total size (ranked size limit bytes 0 0 rows) + size row := by
  -- the longest part that fits, with the rest behind it
  have cut (kept rest : List α) (count : kept.length ≤ limit) (fits : total size kept ≤ bytes) :
      ∃ older, kept ++ rest = ranked size limit bytes 0 0 (kept ++ rest) ++ older ∧
        (ranked size limit bytes 0 0 (kept ++ rest)).length ≤ limit ∧
        total size (ranked size limit bytes 0 0 (kept ++ rest)) ≤ bytes ∧
        ∀ row rest', older = row :: rest' → (ranked size limit bytes 0 0 (kept ++ rest)).length < limit →
          bytes < total size (ranked size limit bytes 0 0 (kept ++ rest)) + size row := by
    induction rest generalizing kept with
    | nil =>
      rw [List.append_nil, ranked_all (by omega) (by omega)]
      exact ⟨[], by simp, count, fits, by simp⟩
    | cons row rest ih =>
      by_cases more : kept.length + 1 ≤ limit ∧ total size kept + size row ≤ bytes
      · have next := ih (kept ++ [row]) (by simpa using more.1) (by simpa using more.2)
        simpa using next
      · have kept_ : ranked size limit bytes 0 0 (kept ++ row :: rest) = kept := by
          rw [ranked_append, ranked_all (by omega) (by omega), ranked, if_neg (by omega), ranked_exceeded _ (by omega),
            List.append_nil]
        rw [kept_]
        refine ⟨row :: rest, rfl, count, fits, fun row' rest' same short => ?_⟩
        cases same
        omega
  exact cut [] rows (Nat.zero_le _) (Nat.zero_le _)

theorem newest_cut (size : α → Nat) (limit bytes) (rows : List α) :
    ∃ older, rows = older ++ newest size limit bytes rows ∧
    (newest size limit bytes rows).length ≤ limit ∧ total size (newest size limit bytes rows) ≤ bytes ∧
    ∀ rest row, older = rest ++ [row] → (newest size limit bytes rows).length < limit →
      bytes < total size (newest size limit bytes rows) + size row := by
  obtain ⟨older, split, count, fits, exceeds⟩ := ranked_cut size limit bytes rows.reverse
  refine ⟨older.reverse, ?_, by simpa [newest] using count, by simpa [newest] using fits, fun rest row same short => ?_⟩
  · rw [newest, ← List.reverse_append, ← split, List.reverse_reverse]
  · have first : older = row :: rest.reverse := by rw [← List.reverse_reverse older, same]; simp
    have beyond := exceeds row rest.reverse first (by simpa [newest] using short)
    simpa [newest] using beyond

theorem newest_isNewest (size : α → Nat) (limit bytes) (rows : List α) :
    IsNewest size limit bytes rows (newest size limit bytes rows) := by
  obtain ⟨older, split, count, fits, exceeds⟩ := newest_cut size limit bytes rows
  refine ⟨⟨older, split.symm⟩, count, fits, fun other within count' fits' => ?_⟩
  by_contra longer
  -- a longer run of newest rows has the first row that was left out
  obtain ⟨row, rest, rfl⟩ : ∃ row rest, older = rest ++ [row] := by
    rcases List.eq_nil_or_concat older with rfl | ⟨rest, row, rfl⟩
    · have bound := within.length_le
      rw [split] at bound
      simp only [List.nil_append] at bound
      omega
    · exact ⟨row, rest, List.concat_eq_append⟩
  have kept : row :: newest size limit bytes rows <:+ rows := ⟨rest, by conv_rhs => rw [split]; simp⟩
  have inside : row :: newest size limit bytes rows <:+ other :=
    List.suffix_of_suffix_length_le kept within (by simp only [List.length_cons]; omega)
  have bound := show total size _ ≤ total size _ from total_le_of_suffix inside
  have beyond := exceeds rest row rfl (by omega)
  simp only [total_cons] at bound
  omega

/-! ### A history in two parts -/

/-- The later part is cut first; the earlier part gets what remains of the bounds. -/
def stacked (size : α → Nat) (limit bytes : Nat) (earlier later : List α) : List α :=
  let kept := newest size limit bytes later
  newest size (limit - kept.length) (bytes - total size kept) earlier ++ kept

def Skips (size : α → Nat) (limit bytes : Nat) (earlier later : List α) : Prop :=
  ∃ oldest row recent other, later = oldest ++ row :: recent ∧ earlier.getLast? = some other ∧ recent.length < limit ∧
    bytes < total size recent + size row ∧ total size recent + size other ≤ bytes

theorem newest_of_fits (count : rows.length ≤ limit) (fits : total size rows ≤ bytes) :
    newest size limit bytes rows = rows := by
  rw [newest, ranked_all (by simpa using count) (by simpa using fits), List.reverse_reverse]

theorem stacked_of_fits (count : later.length ≤ limit) (fits : total size later ≤ bytes) :
    stacked size limit bytes earlier later = newest size limit bytes (earlier ++ later) := by
  have all : ranked size limit bytes 0 0 later.reverse = later.reverse :=
    ranked_all (by simpa using count) (by simpa using fits)
  have shifted := ranked_shift size earlier.reverse count fits
  rw [stacked, newest_of_fits count fits, newest, newest, List.reverse_append, ranked_append, all]
  simp [shifted]

theorem newest_of_cut {older kept : List α} {row} (count : kept.length ≤ limit) (fits : total size kept ≤ bytes)
    (large : bytes < total size kept + size row) : newest size limit bytes (older ++ row :: kept) = kept := by
  rw [newest, List.reverse_append, List.reverse_cons, List.append_assoc, ranked_append,
    ranked_all (by simpa using count) (by simpa using fits), List.singleton_append, ranked, if_neg (by simp; omega),
    ranked_exceeded _ (by simp; omega), List.append_nil, List.reverse_reverse]

theorem newest_nil_of_large {other} (last : rows.getLast? = some other) (large : bytes < size other) :
    newest size limit bytes rows = [] := by
  obtain ⟨rest, rfl⟩ := List.getLast?_eq_some_iff.mp last
  exact newest_of_cut (Nat.zero_le _) (Nat.zero_le _) (by simpa using large)

theorem newest_ne_nil {other} (last : rows.getLast? = some other) (room : 0 < limit)
    (small : size other ≤ bytes) : newest size limit bytes rows ≠ [] := by
  obtain ⟨rest, rfl⟩ := List.getLast?_eq_some_iff.mp last
  rw [newest, List.reverse_append, List.reverse_singleton, List.singleton_append, ranked, if_pos (by omega)]
  simp

theorem newest_eq_nil_iff (room : 0 < limit) :
    newest size limit bytes rows = [] ↔ ∀ row, rows.getLast? = some row → bytes < size row := by
  constructor
  · intro empty row last
    by_contra small
    exact newest_ne_nil last room (by omega) empty
  · intro large
    rcases last : rows.getLast? with _ | row
    · rw [List.getLast?_eq_none_iff.mp last]
      rfl
    · exact newest_nil_of_large last (large row last)

theorem stacked_eq_nil_iff (room : 0 < limit) :
    stacked size limit bytes earlier later = [] ↔
      (∀ row, later.getLast? = some row → bytes < size row) ∧ ∀ row, earlier.getLast? = some row → bytes < size row := by
  rw [← newest_eq_nil_iff room, ← newest_eq_nil_iff room]
  constructor
  · intro empty
    obtain ⟨front, kept⟩ := List.append_eq_nil_iff.mp empty
    rw [kept] at front
    exact ⟨kept, front⟩
  · rintro ⟨kept, front⟩
    simp only [stacked, kept, List.append_nil]
    exact front

theorem mem_of_mem_stacked {row} (member : row ∈ stacked size limit bytes earlier later) :
    row ∈ earlier ∨ row ∈ later := by
  rcases List.mem_append.mp member with front | kept
  · exact .inl ((newest_isNewest size _ _ earlier).suffix.subset front)
  · exact .inr ((newest_isNewest size _ _ later).suffix.subset kept)

theorem Skips.longer {offered} (skips : Skips size limit bytes earlier later)
    (window : IsNewest size limit bytes (earlier ++ later) offered) :
    offered.length < (stacked size limit bytes earlier later).length := by
  obtain ⟨oldest, row, recent, other, shape, last, room, large, small⟩ := skips
  have before : row :: recent <:+ later := ⟨oldest, shape.symm⟩
  -- no run of newest rows has the large one
  have light {rows kept : List α} (within : row :: recent <:+ rows) (window : IsNewest size limit bytes rows kept) :
      kept.length ≤ recent.length := by
    by_contra longer
    have inside : row :: recent <:+ kept :=
      List.suffix_of_suffix_length_le within window.suffix (by simp only [List.length_cons]; omega)
    have heavy : total size (row :: recent) ≤ total size kept := total_le_of_suffix inside
    have fits := window.fits
    simp only [total_cons] at heavy
    omega
  have kept : newest size limit bytes later = recent := by
    have part := newest_isNewest size limit bytes later
    have within : recent <:+ later := (List.suffix_cons row recent).trans before
    have bound := part.longest recent within (by omega) (by omega)
    exact ((List.suffix_of_suffix_length_le within part.suffix bound).eq_of_length_le (light before part)).symm
  have some_ := newest_ne_nil last (show 0 < limit - recent.length by omega)
    (show size other ≤ bytes - total size recent by omega)
  have length := List.length_pos_iff.mpr some_
  have short := light (before.trans (List.suffix_append earlier later)) window
  simp only [stacked, kept, List.length_append]
  omega

theorem stacked_isNewest (never : ¬ Skips size limit bytes earlier later) :
    IsNewest size limit bytes (earlier ++ later) (stacked size limit bytes earlier later) := by
  obtain ⟨older, split, count, fits, exceeds⟩ := newest_cut size limit bytes later
  by_cases whole : later.length ≤ limit ∧ total size later ≤ bytes
  · rw [stacked_of_fits whole.1 whole.2]
    exact newest_isNewest size limit bytes _
  -- the later part is cut, so nothing of the earlier one is left
  have part := newest_isNewest size limit bytes later
  have empty : newest size (limit - (newest size limit bytes later).length)
      (bytes - total size (newest size limit bytes later)) earlier = [] := by
    rcases last : earlier.getLast? with _ | other
    · rw [List.getLast?_eq_none_iff] at last
      subst last
      rfl
    · rcases List.eq_nil_or_concat older with rfl | ⟨oldest, row, rfl⟩
      · rw [List.nil_append] at split
        rw [← split] at count fits
        exact absurd ⟨count, fits⟩ whole
      · by_cases room : (newest size limit bytes later).length < limit
        · apply newest_nil_of_large last
          have large := exceeds oldest row List.concat_eq_append room
          by_contra small
          exact never ⟨oldest, row, newest size limit bytes later, other, by simpa using split, last, room, large,
            by omega⟩
        · rw [newest, ranked_exceeded _ (by omega), List.reverse_nil]
  simp only [stacked, empty, List.nil_append]
  refine ⟨part.suffix.trans (List.suffix_append _ _), part.count, part.fits, fun other within count' fits' => ?_⟩
  rcases List.suffix_or_suffix_of_suffix within (List.suffix_append earlier later) with inside | around
  · exact part.longest other inside count' fits'
  · exact absurd ⟨around.length_le.trans count', (total_le_of_suffix around).trans fits'⟩ whole

end RecencyWindow
