import StructuralEdit.Shell.Reader.Token
/-!
Reading conditions between double brackets.
-/
namespace StructuralEdit.Shell.Read

def unaryConditions : List String :=
  ["-n", "-z", "-e", "-a", "-f", "-d", "-s", "-r", "-w", "-x", "-L", "-h", "-p", "-S", "-b", "-c",
    "-t", "-v", "-o", "-g", "-u", "-k", "-O", "-G", "-N", "-R"]

def binaryConditions : List String :=
  ["=", "==", "!=", "=~", "-eq", "-ne", "-lt", "-le", "-gt", "-ge", "-nt", "-ot", "-ef"]

def rightOperand (self : Readers) (operator : String) : Read Word := do
  let before := (← get).groups
  modify fun r => { r with groups := before || ["=", "==", "!="].contains operator }
  let t ← nextToken self
  modify fun r => { r with groups := before }
  match t with
  | .word w _ => if t.isPlain "]]" then fail (.noOperand true t) else return w
  | t => fail (.noOperand true t)

def primaryCondition (self : Readers) : Read Condition := do
  let t ← tokenBehindLines self
  match t with
  | .operator "(" =>
    let c ← self .condition
    let t ← tokenBehindLines self
    if t.isOperator ")" then return c else fail (.openCondition t)
  | .word w _ =>
    let operator := (t.plain?.getD "")
    if operator = "!" then return .not (← primaryOf self)
    else if operator = "]]" then fail (.badCondition t)
    else
      let next ← nextToken self
      match next with
      | .redirect none o => return .binary o.toList w (← rightOperand self o)
      | .word b _ =>
        let o := next.plain?.getD ""
        if unaryConditions.contains operator ∧ !(binaryConditions.contains o) then
          if o = "]]" then fail (.noOperand false next)
          return .unary operator.toList b
        else if o = "=~" then
          skipBlanks
          let b ← self (.parts .regex)
          return .binary o.toList w b
        else if binaryConditions.contains o then
          return .binary o.toList w (← rightOperand self o)
        else if o = "]]" then
          push next
          return .unary "-n".toList w
        else fail (.noOperator next)
      | t =>
        if t.isOperator "&&" || t.isOperator "||" || t.isOperator ")" then
          push t
          return .unary "-n".toList w
        else fail (.noOperator (if t.isFinish then .newline else t))
  | t => fail (.badCondition t)
where
  primaryOf (self : Readers) : Read Condition := do
    let t ← tokenBehindLines self
    match t with
    | .operator "(" =>
      let c ← self .condition
      let t ← tokenBehindLines self
      if t.isOperator ")" then return c else fail (.openCondition t)
    | t =>
      push t
      self .condition

/-- Reads a condition. Conjunctions bind more tightly than alternatives. -/
def condition (self : Readers) : Read Condition := do
  let rec conjunction (n : Nat) (c : Condition) : Read Condition := do
    match n with
    | 0 => return c
    | n + 1 =>
      let t ← tokenBehindLines self
      if t.isOperator "&&" then conjunction n (.both c (← primaryCondition self))
      else
        push t
        return c
  let rec alternatives (n : Nat) (c : Condition) : Read Condition := do
    match n with
    | 0 => return c
    | n + 1 =>
      let t ← tokenBehindLines self
      if t.isOperator "||" then
        alternatives n (.either c (← conjunction n (← primaryCondition self)))
      else
        push t
        return c
  let n := (← get).rest.length + 1
  alternatives n (← conjunction n (← primaryCondition self))

end StructuralEdit.Shell.Read
