import Recheck.Text

/-!
# Text files

The text of a file is its bytes read as UTF-8, in which every kind of line end counts as one
line feed. A byte-order mark is an ordinary character.
-/

namespace Recheck.Text

/-- The text with each carriage return, alone or before a line feed, as one line feed. -/
def unifyNewlines : Text → Text
  | [] => []
  | '\r' :: '\n' :: rest => '\n' :: unifyNewlines rest
  | '\r' :: rest => '\n' :: unifyNewlines rest
  | c :: rest => c :: unifyNewlines rest

/-- The UTF-8 bytes of a text. -/
def toBytes (t : Text) : ByteArray := (String.ofList t).toByteArray

/-- The number of bytes that a text takes in UTF-8. -/
def byteCount (t : Text) : Nat := t.foldl (fun n c => n + c.utf8Size) 0

/-- The text that the bytes spell in UTF-8, if they do. -/
def ofBytes? (bytes : ByteArray) : Option Text :=
  bytes.utf8Decode?.map fun chars => unifyNewlines chars.toList

/-- Text without carriage returns is read back as written. -/
theorem unifyNewlines_of_not_mem {t : Text} (h : '\r' ∉ t) : unifyNewlines t = t := by
  fun_induction unifyNewlines t with
  | case1 => rfl
  | case2 rest ih => simp at h
  | case3 rest _ ih => simp at h
  | case4 c rest _ _ ih =>
    simp only [List.mem_cons, not_or] at h
    rw [ih h.2]

theorem ofBytes?_toBytes (t : Text) : ofBytes? (toBytes t) = some (unifyNewlines t) := by
  rw [ofBytes?, toBytes, String.toByteArray_ofList, List.utf8Decode?_utf8Encode]
  rfl

end Recheck.Text
