import Mealy.Lib.Transaction

/-! Reading a sequence item by item and handing each finished line to a consumer. The
reader keeps the line it is in the middle of, so it can be fed in any pieces: what it
has seen is all that matters. -/

namespace LineReader
open Transaction

variable {α σ ε : Type} [DecidableEq α]

/-- The unfinished line and the consumer's state. -/
abbrev Reader (α σ : Type) := List α × σ

def read (separator : α) (consume : List α → σ → Except ε σ) (reader : Reader α σ) (item : α) :
    Except ε (Reader α σ) :=
  if item = separator then (consume reader.1 reader.2).map ([], ·) else .ok (reader.1 ++ [item], reader.2)

/-- Read all items; the first line that the consumer rejects ends it. -/
def feed (separator : α) (consume : List α → σ → Except ε σ) (reader : Reader α σ) (items : List α) :
    Except ε (Reader α σ) :=
  items.foldlM (read separator consume) reader

variable {separator : α} {consume : List α → σ → Except ε σ}

theorem feed_append (reader : Reader α σ) (first second : List α) :
    feed separator consume reader (first ++ second) =
      feed separator consume reader first >>= fun middle => feed separator consume middle second :=
  List.foldlM_append

theorem feed_piece {piece} (unbroken : separator ∉ piece) (line : List α) (s : σ) :
    feed separator consume (line, s) piece = .ok (line ++ piece, s) := by
  induction piece generalizing line with
  | nil => simp [feed, pure, Except.pure]
  | cons item rest ih =>
    have different : item ≠ separator := by
      intro same
      exact unbroken (by simp [same])
    have tail := ih (fun member => unbroken (List.mem_cons_of_mem _ member)) (line ++ [item])
    simp only [feed, List.foldlM_cons, read, if_neg different, ok_bind] at tail ⊢
    rw [tail, List.append_assoc, List.singleton_append]

theorem feed_line {piece} (unbroken : separator ∉ piece) (line rest : List α) (s : σ) :
    feed separator consume (line, s) (piece ++ separator :: rest) =
      consume (line ++ piece) s >>= fun s' => feed separator consume ([], s') rest := by
  rw [feed_append, feed_piece unbroken, ok_bind]
  simp only [feed, List.foldlM_cons, read, if_true]
  cases consume (line ++ piece) s <;> rfl

theorem feed_unbroken {reader reader' items} (unbroken : separator ∉ reader.1)
    (fed : feed separator consume reader items = .ok reader') : separator ∉ reader'.1 := by
  induction items generalizing reader with
  | nil =>
    cases fed
    exact unbroken
  | cons item rest ih =>
    simp only [feed, List.foldlM_cons, bind_eq_ok] at fed
    obtain ⟨middle, first, later⟩ := fed
    apply ih _ later
    unfold read at first
    split at first
    next =>
      obtain ⟨_, _, rfl⟩ := map_eq_ok.mp first
      exact List.not_mem_nil
    next different =>
      cases first
      intro member
      rcases List.mem_append.mp member with inside | last
      · exact unbroken inside
      · exact different (List.mem_singleton.mp last).symm

theorem feed_map {change} (commutes : ∀ line s, consume line (change s) = (consume line s).map change)
    (line : List α) (s : σ) (items : List α) :
    feed separator consume (line, change s) items =
      (feed separator consume (line, s) items).map fun reader => (reader.1, change reader.2) := by
  induction items generalizing line s with
  | nil => rfl
  | cons item rest ih =>
    simp only [feed, List.foldlM_cons, read] at ih ⊢
    split
    next =>
      rw [commutes]
      cases consume line s with
      | error => rfl
      | ok s' => exact ih [] s'
    next => exact ih (line ++ [item]) s

end LineReader
