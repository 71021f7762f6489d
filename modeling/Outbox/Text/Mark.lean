namespace Outbox.Text

def mark : Char := Char.ofNat 0xFEFF

def dropMark (s : List Char) : List Char :=
  if s.head? = some mark then s.tail else s

end Outbox.Text
