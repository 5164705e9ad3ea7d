/-
# Dispatches in words

How a dispatch is named when a peer cannot be told: its sort and its fields,
ids in quotes, coordinates with their shortest digits.

Key definitions: `Dispatch.text`.
-/
import PointerShare.Decimal.Style
import PointerShare.Signal
import PointerShare.Text.Quoted

namespace PointerShare

/-- Coordinates are written positionally from `10 ^ -4` to below `10 ^ 16`. -/
def coordinateStyle : Decimal.Style := ⟨.up, some (-4), some 16⟩

def NetworkId.shown (id : NetworkId) : String := "NetworkId(" ++ Text.quoted id.text ++ ")"

def Dhid.shown (id : Dhid) : String := "Dhid(" ++ Text.quoted id.text ++ ")"

def Location.shown (l : Location) : String :=
  "MouseLocationPercent \x7b x_pct: " ++ coordinateStyle.write l.x.toBits ++ ", y_pct: " ++
    coordinateStyle.write l.y.toBits ++ " \x7d"

/-- A sort of dispatch and its fields. -/
def shownRecord (name : String) (fields : List (String × String)) : String :=
  name ++ " \x7b " ++ ", ".intercalate (fields.map fun f => f.1 ++ ": " ++ f.2) ++ " \x7d"

def Dispatch.text : Dispatch → String
  | announceStart origin remote =>
    shownRecord "AnnounceStart" [("local", origin.shown), ("remote", remote.shown)]
  | startResult target success dhid location =>
    shownRecord "StartResult"
      [("target", target.shown), ("success", toString success), ("dhid", dhid.shown),
        ("location", location.shown)]
  | stopResult target success =>
    shownRecord "StopResult" [("target", target.shown), ("success", toString success)]
  | relayAnnounce sink source =>
    shownRecord "RelayAnnounce" [("sink", sink.shown), ("source", source.shown)]

end PointerShare
