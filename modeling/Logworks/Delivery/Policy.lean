import Logworks.Time.Span

/-!
# What a full queue does

Five ways to treat a record for which the queue has no room: refuse it, make room by giving up
the oldest, wait without or with a limit, or refuse it loudly. The last is the default.
-/

namespace Logworks.Delivery

open Logworks.Json Logworks.Time

inductive Policy where
  | dropNewest
  | dropOldest
  | block
  | blockWithin (limit : Span)
  | alertAndDrop
  deriving DecidableEq, Repr

namespace Policy

def standard : Policy := alertAndDrop

def text : Policy → String
  | dropNewest => "DropNewest"
  | dropOldest => "DropOldest"
  | block => "Block"
  | blockWithin limit => "BlockWithTimeout(" ++ limit.text ++ ")"
  | alertAndDrop => "AlertAndDrop"

def toValue : Policy → Value
  | blockWithin limit => .object [("BlockWithTimeout", limit.toValue)]
  | dropNewest => .text "DropNewest"
  | dropOldest => .text "DropOldest"
  | block => .text "Block"
  | alertAndDrop => .text "AlertAndDrop"

def reader : Reader Policy :=
  Reader.choice
    [("DropNewest", .bare dropNewest), ("DropOldest", .bare dropOldest), ("Block", .bare block),
     ("BlockWithTimeout", .carrying (Span.reader.map blockWithin)),
     ("AlertAndDrop", .bare alertAndDrop)]

end Policy

end Logworks.Delivery
