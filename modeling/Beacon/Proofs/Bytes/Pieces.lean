import Beacon.Bytes.Basic

/-!
# Pieces of a byte string

The consecutive pieces of a byte string, by their numbers: `Bytes.pieces_eq` says how many there are
and what each one holds.
-/

namespace Beacon.Bytes

variable {size : Nat}

/-- The number of pieces of a byte string with a given length. -/
def pieceCount (size length : Nat) : Nat := (length + size - 1) / size

theorem pieceCount_zero (pos : 0 < size) : pieceCount size 0 = 0 :=
  Nat.div_eq_of_lt (by omega)

/-- There is one piece more than there are in what follows the first one. -/
theorem pieceCount_of_pos (pos : 0 < size) {length : Nat} (h : 0 < length) :
    pieceCount size length = pieceCount size (length - size) + 1 := by
  unfold pieceCount
  by_cases hle : size ≤ length
  · rw [show length + size - 1 = length - size + size - 1 + size by omega, Nat.add_div_right _ pos]
  · rw [show length + size - 1 = length - 1 + size by omega, Nat.add_div_right _ pos,
      show length - size + size - 1 = size - 1 by omega, Nat.div_eq_of_lt (by omega),
      Nat.div_eq_of_lt (by omega)]

/-- The piece with a number. -/
def piece (size : Nat) (bytes : Bytes) (i : Nat) : Bytes := (bytes.drop (size * i)).take size

theorem piece_drop (bytes : Bytes) (i : Nat) :
    piece size (bytes.drop size) i = piece size bytes (i + 1) := by
  rw [piece, piece, List.drop_drop, Nat.mul_add_one, Nat.add_comm]

theorem pieces_go_eq (pos : 0 < size) (count : Nat) (bytes : Bytes) (done : List Bytes)
    (h : bytes.length ≤ size * count) :
    pieces.go size count bytes done =
      done.reverse ++ (List.range (pieceCount size bytes.length)).map (piece size bytes) := by
  -- induction on the bound, which falls with each piece that is cut off
  induction count generalizing bytes done with
  | zero =>
    obtain rfl : bytes = [] := List.eq_nil_of_length_eq_zero (by omega)
    simp [pieces.go, pieceCount_zero pos]
  | succ count ih =>
    cases bytes with
    | nil => simp [pieces.go, pieceCount_zero pos]
    | cons b rest =>
      have hlen : ((b :: rest).drop size).length ≤ size * count := by
        rw [Nat.mul_add_one] at h
        rw [List.length_drop]
        omega
      have hcount : pieceCount size (b :: rest).length =
          pieceCount size ((b :: rest).drop size).length + 1 := by
        rw [List.length_drop]
        exact pieceCount_of_pos pos (Nat.succ_pos _)
      have hfirst : piece size (b :: rest) 0 = (b :: rest).take size := by simp [piece]
      rw [pieces.go, ih _ _ hlen, hcount, List.range_succ_eq_map, List.map_cons, List.map_map,
        hfirst, List.reverse_cons, List.append_assoc]
      simp only [List.singleton_append, List.append_cancel_left_eq, List.cons.injEq, true_and]
      exact List.map_congr_left fun i _ => piece_drop (b :: rest) i
      simp

/-- The pieces of a byte string in the order of their numbers. -/
theorem pieces_eq (pos : 0 < size) (bytes : Bytes) :
    pieces size bytes =
      (List.range (pieceCount size bytes.length)).map (piece size bytes) := by
  rw [pieces, pieces_go_eq pos _ _ _ (Nat.le_of_lt (Nat.lt_mul_div_succ _ pos))]
  rfl

/-- A whole piece in front of a byte string is its first piece. -/
theorem pieces_append (pos : 0 < size) {first : Bytes} (h : first.length = size) (rest : Bytes) :
    pieces size (first ++ rest) = first :: pieces size rest := by
  have hcount : pieceCount size (first ++ rest).length = pieceCount size rest.length + 1 := by
    rw [List.length_append, h, pieceCount_of_pos pos (by omega), Nat.add_sub_cancel_left]
  have hfirst : piece size (first ++ rest) 0 = first := by simp [piece, ← h]
  have hdrop : (first ++ rest).drop size = rest := by simp [← h]
  rw [pieces_eq pos, pieces_eq pos, hcount, List.range_succ_eq_map, List.map_cons, List.map_map,
    hfirst]
  refine congrArg (first :: ·) (List.map_congr_left fun i _ => ?_)
  rw [Function.comp_apply, ← piece_drop, hdrop]

end Beacon.Bytes
