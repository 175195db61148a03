namespace AccessTrail.Text

def wholeLines : List Char → List (List Char)
  | [] => []
  | c :: cs =>
    if c = '\n' then [c] :: wholeLines cs
    else
      match wholeLines cs with
      | [] => [[c]]
      | l :: ls => (c :: l) :: ls

def dropEnd (line : List Char) : List Char :=
  match line.reverse with
  | '\n' :: '\r' :: cs => cs.reverse
  | '\n' :: cs => cs.reverse
  | _ => line

def lines (cs : List Char) : List (List Char) := (wholeLines cs).map dropEnd

end AccessTrail.Text
