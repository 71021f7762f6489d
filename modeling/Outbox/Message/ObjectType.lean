import Outbox.Text.Cased
import Outbox.Text.Lowercase

namespace Outbox.Message

open Text

-- Does an upper-case letter start a new word? It does behind a lower-case letter or a digit, and
-- behind another upper-case letter if a lower-case one follows it.
def startsWord (before : Option Char) (after : List Char) : Bool :=
  match before with
  | none => false
  | some b =>
    isLowercase b || b.isDigit
      || (isUppercase b && match after with
          | a :: _ => isLowercase a
          | []     => false)

def snakeCaseAfter (before : Option Char) : List Char → List Char
  | [] => []
  | c :: rest =>
    (if isUppercase c then
      (if startsWord before rest then ['_'] else []) ++ lowerChar c
    else [c]) ++ snakeCaseAfter (some c) rest

def snakeCase (s : List Char) : List Char :=
  snakeCaseAfter none s

def untilColons : List Char → List Char
  | ':' :: ':' :: _ => []
  | c :: s          => c :: untilColons s
  | []              => []

def lastSegment (path : List Char) : List Char :=
  (untilColons path.reverse).reverse

def objectTypeOf (typeName : String) : String :=
  String.ofList (snakeCase (lastSegment (typeName.toList.takeWhile (· != '<'))))

example : objectTypeOf "app::UserAccount<std::String>" = "user_account" := by decide +kernel
example : objectTypeOf "HTTPRoute" = "http_route" := by decide +kernel
example : objectTypeOf "OrderEventV2" = "order_event_v2" := by decide +kernel

end Outbox.Message
