/-! # Blank characters

The characters with Unicode's `White_Space` property, and trimming by it. Text is handled as a list of
characters, so that what is dropped and what is kept can be said with the list operations. -/

namespace HostingClient.Text

/-- Whether a character has the `White_Space` property. -/
def isBlank (c : Char) : Bool :=
  let n := c.toNat
  (0x09 ≤ n && n ≤ 0x0D) || n == 0x20 || n == 0x85 || n == 0xA0 || n == 0x1680 ||
    (0x2000 ≤ n && n ≤ 0x200A) || n == 0x2028 || n == 0x2029 || n == 0x202F || n == 0x205F || n == 0x3000

/-- Drops the blanks at the start. -/
def trimStart (s : List Char) : List Char := s.dropWhile isBlank

/-- Drops the trailing characters that satisfy `p`. -/
def trimEndBy (p : Char → Bool) (s : List Char) : List Char := (s.reverse.dropWhile p).reverse

/-- Whether a text holds nothing but blanks. -/
def isBlankText (s : String) : Bool := s.toList.all isBlank

/-- Drops every slash at the end of a text. -/
def trimSlashes (s : String) : String := String.ofList (trimEndBy (· == '/') s.toList)

theorem trimEndBy_append (p : Char → Bool) (s : List Char) :
    trimEndBy p s ++ (s.reverse.takeWhile p).reverse = s := by
  rw [trimEndBy, ← List.reverse_append, List.takeWhile_append_dropWhile, List.reverse_reverse]

theorem trimEndBy_replicate {c : Char} {w : List Char} (h : w.getLast? ≠ some c) (n : Nat) :
    trimEndBy (· == c) (w ++ List.replicate n c) = w := by
  have hall : ∀ d ∈ List.replicate n c, (d == c) = true := fun d hd => by
    rw [List.eq_of_mem_replicate hd]
    exact beq_self_eq_true c
  unfold trimEndBy
  rw [List.reverse_append, List.reverse_replicate, List.dropWhile_append_of_pos hall]
  cases hw : w.reverse with
  | nil => exact (List.reverse_eq_nil_iff.mp hw).symm
  | cons d ds =>
    have hlast : w.getLast? = some d := by rw [← List.head?_reverse, hw, List.head?_cons]
    have hne : ¬ (d == c) = true := fun hd => h (hlast.trans (congrArg some (beq_iff_eq.mp hd)))
    have hstays : (d :: ds).dropWhile (· == c) = d :: ds := List.dropWhile_cons_of_neg hne
    rw [hstays, ← hw, List.reverse_reverse]

end HostingClient.Text
