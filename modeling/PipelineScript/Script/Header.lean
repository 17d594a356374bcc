import PipelineScript.Colour
import PipelineScript.Script.Word

/-!
# The header of a script

The header defines the colours, the working directory, the summary and the function that runs a
command.  The options say what that function does beside running the command.
-/

namespace PipelineScript.Script

/-- What a script does while it runs. -/
structure Options where
  /-- Show each command before it runs. -/
  echo : Bool := true
  /-- Stop at the first command that fails. -/
  errorCheck : Bool := true
  /-- Measure each command and show a summary. -/
  summary : Bool := true
  deriving DecidableEq, Repr, Inhabited

/-- The lines of the colours and of the working directory. -/
def variableLines [Quoting] (directory : String) : List String :=
  let colours := [("GREEN", Colour.green), ("RED", .red), ("MAGENTA", .magenta), ("RESET", .reset)]
  colours.map (fun (name, c) => name ++ "='" ++ c.shellCode ++ "'") ++
    ["DEFAULT_WORKING_DIRECTORY=" ++ word directory, ""]

/-- The lines of the summary. -/
def summaryLines : List String :=
  ["SUMMARY_LABELS=()",
   "SUMMARY_RESULTS=()",
   "SUMMARY_STARTS=()",
   "SUMMARY_ENDS=()",
   "SUMMARY_DURATIONS=()",
   "",
   "format_duration()",
   "\x7b",
   "    local total=\"$1\"",
   "    printf '%02d:%02d:%02d' $((total / 3600)) $((total % 3600 / 60)) $((total % 60))",
   "\x7d",
   "",
   "record_summary()",
   "\x7b",
   "    SUMMARY_LABELS+=(\"$1\")",
   "    SUMMARY_RESULTS+=(\"$2\")",
   "    SUMMARY_STARTS+=(\"$3\")",
   "    SUMMARY_ENDS+=(\"$4\")",
   "    SUMMARY_DURATIONS+=(\"$5\")",
   "\x7d",
   "",
   "print_summary()",
   "\x7b",
   "    local status=\"$1\"",
   "    local width=7",
   "    local label i color",
   "    for label in \"$\x7bSUMMARY_LABELS[@]\x7d\"; do",
   "        if [ \"$\x7b#label\x7d\" -gt \"$\x7bwidth\x7d\" ]; then",
   "            width=\"$\x7b#label\x7d\"",
   "        fi",
   "    done",
   "",
   "    echo \"\"",
   "    echo \"==================== Summary ====================\"",
   "    printf \"%-$\x7bwidth\x7ds  %-6s  %-15s  %-15s  %s\\n\" " ++
     "\"Command\" \"Result\" \"Start\" \"End\" \"Duration\"",
   "    for i in \"$\x7b!SUMMARY_LABELS[@]\x7d\"; do",
   "        if [ \"$\x7bSUMMARY_RESULTS[$i]\x7d\" = \"OK\" ]; then",
   "            color=\"$\x7bGREEN\x7d\"",
   "        else",
   "            color=\"$\x7bRED\x7d\"",
   "        fi",
   "        printf \"%-$\x7bwidth\x7ds  $\x7bcolor\x7d%-6s$\x7bRESET\x7d  " ++
     "%-15s  %-15s  %s\\n\" \\",
   "            \"$\x7bSUMMARY_LABELS[$i]\x7d\" \"$\x7bSUMMARY_RESULTS[$i]\x7d\" \\",
   "            \"$\x7bSUMMARY_STARTS[$i]\x7d\" \"$\x7bSUMMARY_ENDS[$i]\x7d\" " ++
     "\"$\x7bSUMMARY_DURATIONS[$i]\x7d\"",
   "    done",
   "    exit \"$\x7bstatus\x7d\"",
   "\x7d",
   ""]

/-- The lines that begin the function of a command. -/
def wrapperOpening : List String :=
  ["call_wrapper()",
   "\x7b",
   "    local label=\"$1\"",
   "    local command=\"$2\"",
   "    local start_time start_stamp end_time end_stamp duration exit_code result",
   "    start_time=$(date +%s)",
   "    start_stamp=$(date +\"%b %d %T\")"]

/-- The lines that show the start of a command. -/
def startLines : List String :=
  ["    printf \"$\x7bMAGENTA\x7d%s : START %s$\x7bRESET\x7d\\n\" " ++
     "\"$\x7blabel\x7d\" \"$\x7bstart_stamp\x7d\""]

/-- The lines that show a command. -/
def echoLines : List String :=
  ["    printf '%s\\n' \"$\x7bcommand\x7d\""]

/-- The lines that run a command. -/
def runLines : List String :=
  ["    (cd \"$\x7bDEFAULT_WORKING_DIRECTORY\x7d\" && eval \"$\x7bcommand\x7d\")",
   "    exit_code=$?"]

/-- The lines that measure a command and show its end. -/
def endLines : List String :=
  ["    end_time=$(date +%s)",
   "    end_stamp=$(date +\"%b %d %T\")",
   "    duration=$(format_duration $((end_time - start_time)))",
   "    printf \"$\x7bMAGENTA\x7d%s : END %s - %s$\x7bRESET\x7d\\n\" " ++
     "\"$\x7blabel\x7d\" \"$\x7bend_stamp\x7d\" \"$\x7bduration\x7d\"",
   "    result=\"OK\"",
   "    if [ \"$\x7bexit_code\x7d\" -ne 0 ]; then",
   "        result=\"FAILED\"",
   "    fi"]

/-- The call that records a command for the summary. -/
def recordCall : String :=
  "record_summary \"$\x7blabel\x7d\" \"$\x7bresult\x7d\" " ++
    "\"$\x7bstart_stamp\x7d\" \"$\x7bend_stamp\x7d\" \"$\x7bduration\x7d\""

/-- The lines that record a command for the summary. -/
def recordLines : List String :=
  ["    " ++ recordCall]

/-- The lines that report a command that failed. -/
def failureOpening : List String :=
  ["    if [ \"$\x7bexit_code\x7d\" -ne 0 ]; then",
   "        printf \"$\x7bRED\x7d%s\\nfailed with error code %s. Stopping execution early." ++
     "$\x7bRESET\x7d\\n\" \"$\x7bcommand\x7d\" \"$\x7bexit_code\x7d\""]

/-- The lines that stop with the summary. -/
def summaryExit : List String :=
  ["        " ++ recordCall,
   "        print_summary \"$\x7bexit_code\x7d\""]

/-- The lines that stop without a summary. -/
def plainExit : List String :=
  ["        exit \"$\x7bexit_code\x7d\""]

/-- The lines of the function that runs a command. -/
def wrapperLines (o : Options) : List String :=
  let when (b : Bool) (lines : List String) : List String := if b then lines else []
  wrapperOpening ++ when o.summary startLines ++ when o.echo echoLines ++ runLines ++
    when o.summary endLines ++ ["    echo \"\""] ++
    when o.errorCheck
      (failureOpening ++ (if o.summary then summaryExit else plainExit) ++ ["    fi"]) ++
    when o.summary recordLines ++ ["\x7d", ""]

/-- The lines of the header. -/
def headerLines [Quoting] (o : Options) (directory : String) : List String :=
  ["#!/bin/bash", ""] ++ variableLines directory ++ (if o.summary then summaryLines else []) ++
    wrapperLines o

/-- A text of lines. -/
def joinLines (lines : List String) : String :=
  String.join (lines.map (· ++ "\n"))

/-- The header of a script. -/
def header [Quoting] (o : Options) (directory : String) : String :=
  joinLines (headerLines o directory)

end PipelineScript.Script
