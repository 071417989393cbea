/-
The program that shows a time.

The clock stands still, at the start of 2026; the zone is the common one.
-/
import PageScript.Shell.Date.Format
import PageScript.Shell.Date.Parser
import PageScript.Shell.Program.Mode
import PageScript.Shell.Program.Place

namespace PageScript.Shell.Program

open Date (Moment)

def standardFormats : List (String × String) :=
  [("hours", "%Y-%m-%dT%H%:z"), ("minutes", "%Y-%m-%dT%H:%M%:z"), ("date", "%Y-%m-%d"),
    ("seconds", "%Y-%m-%dT%H:%M:%S%:z"), ("ns", "%Y-%m-%dT%H:%M:%S,%N%:z")]

def recordFormats : List (String × String) :=
  [("date", "%Y-%m-%d"), ("seconds", "%Y-%m-%d %H:%M:%S%:z"), ("ns", "%Y-%m-%d %H:%M:%S.%N%:z")]

/-- The options of the program, in which the option that may do without a value has got one. -/
def dateArguments : List String → List String
  | [] => []
  | "--" :: rest => "--" :: rest
  | "-I" :: rest | "--iso-8601" :: rest => "--iso-8601=date" :: dateArguments rest
  | arg :: rest =>
    (if arg.startsWith "-I" then "--iso-8601=" ++ (arg.drop 2).toString else arg) ::
      dateArguments rest

def withoutZone (text : String) : String :=
  let t := text.toList.dropWhile (· = ' ')
  if "TZ=\"".toList.isPrefixOf t then
    String.ofList (((t.drop 4).dropWhile (· ≠ '"')).drop 1)
  else text

def date (call : Call) : Effect :=
  { call with args := dateArguments call.args }.withOptions 1
    { flags := ['u', 'R'], valued := ['d', 'f', 'r', 's', 'I'], valuedLong := ['3']
      long := [("date", 'd'), ("file", 'f'), ("iso-8601", 'I'), ("reference", 'r'),
        ("rfc-email", 'R'), ("rfc-3339", '3'), ("set", 's'), ("utc", 'u'), ("universal", 'u')] }
    fun o =>
    let standard := (o.value? 'I').map (chosen "iso-8601" (standardFormats.map Prod.fst))
    let record := (o.value? '3').map (chosen "rfc-3339" (recordFormats.map Prod.fst))
    match standard, record with
    | some (.error e), _ | _, some (.error e) => .misused call 1 e
    | _, _ =>
      let chosenFormat : Option String :=
        match standard, record with
        | some (.ok k), _ => standardFormats.lookup k
        | _, some (.ok k) => recordFormats.lookup k
        | _, _ => if o.has 'R' then some "%a, %d %b %Y %H:%M:%S %z" else none
      let sources := ['d', 'f', 'r'].filter o.has
      if 1 < sources.length then
        .misused call 1 "the options to specify dates for printing are mutually exclusive"
      else
        match o.operands with
        | _ :: extra :: _ => .misused call 1 ("extra operand " ++ quoted extra)
        | operands =>
          let asked := (operands.head?.bind fun f =>
            if f.startsWith "+" then some (f.drop 1).toString else none)
          match operands, asked, chosenFormat with
          | [text], none, _ =>
            if sources.isEmpty then .complaining call 1 ("invalid date " ++ quoted text)
            else .misused call 1
              ("the argument " ++ quoted text ++ " lacks a leading '+';\n" ++
                "when using an option to " ++
                "specify date(s), any non-option\nargument must be a format string beginning " ++
                "with '+'")
          | _, some _, some _ => .complaining call 1 "multiple output formats specified"
          | _, _, _ =>
            let format := (asked <|> chosenFormat).getD "%a %b %e %H:%M:%S %Z %Y"
            let present : Moment := {}
            let shown (m : Moment) : Stream := bytesOf (m.show format ++ "\n")
            let parsed (text : String) : Option Moment :=
              (Date.parse? (withoutZone text)).map fun (s, n) =>
                { seconds := s, nanos := n }
            let one (effect : Effect) (text : String) : Effect :=
              match parsed text with
              | some m => effect.send (shown m)
              | none => effect.complain call 1 ("invalid date " ++ quoted text)
            match o.value? 'd', o.value? 'f', o.value? 'r', o.value? 's' with
            | some text, _, _, _ => one { disk := call.disk } text
            | none, some file, _, _ =>
              match call.fetch file with
              | .error e => .complaining call 1 (nameText file ++ ": " ++ reason e)
              | .ok bytes =>
                (lineTexts bytes).foldl one { disk := call.disk }
            | none, none, some file, _ =>
              match placeOf call.disk file with
              | .ok (_, tree) =>
                let time := timeOf tree
                .sending call
                  (shown { seconds := (time / 10 ^ 9 : Nat), nanos := time % 10 ^ 9 })
              | .error e => .complaining call 1 (nameText file ++ ": " ++ reason e)
            | none, none, none, some text =>
              match parsed text with
              | some m => .sending call (shown m)
              | none => .complaining call 1 ("invalid date " ++ quoted text)
            | none, none, none, none => .sending call (shown present)

end PageScript.Shell.Program
