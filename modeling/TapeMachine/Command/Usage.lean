/-
**Usage texts.**

Main definitions:

* `TapeMachine.Command.Usage.overview`, `TapeMachine.Command.Usage.headless`,
  `TapeMachine.Command.Usage.viewer` — the usage of the program and of its two commands.
-/

set_option relaxedAutoImplicit false
set_option autoImplicit false

namespace TapeMachine.Command.Usage

/-- Lines of a usage text, with an empty line behind them. -/
def ofLines (lines : List String) : String := String.join (lines.map (· ++ "\n")) ++ "\n"

/-- The usage of the program. -/
def overview (name : String) : String := ofLines [
  "Usage:",
  "  " ++ name ++ " run [--trace|-t] [--ascii|-a] \"<code>\"   # Run Brainfuck code to completion",
  "  " ++ name ++ " run [--trace|-t] --file <PATH>          # Run Brainfuck code loaded from file",
  "  " ++ name ++
    " tui [\"<code>\"]                          # Step through code in the terminal visualizer",
  "  " ++ name ++ " tui --file <PATH>                       # Visualize code loaded from file",
  "",
  "Run \"" ++ name ++ " <subcommand> --help\" for more info."]

/-- The usage of the command that runs a program without a screen. -/
def headless (name : String) : String := ofLines [
  "Usage:",
  "  " ++ name ++ " run [OPTIONS] \"<code>\"",
  "  " ++ name ++ " run [OPTIONS] --file <PATH>",
  "",
  "Options:",
  "  --file,      -f <PATH>  Read Brainfuck code from PATH instead of positional \"<code>\"",
  "  --trace,     -t         Print a step-by-step table of operations instead of the output log",
  "  --ascii,     -a         Print emitted values as characters instead of `: <value>` lines",
  "  --capacity,  -c <CELLS> Tape size (default 4096)",
  "  --modulus,   -m <M>     Cell wraparound, 2..=256 (default 128)",
  "  --timeout <MS>          Wall-clock timeout (default 2000)",
  "  --max-steps <N>         Abort after N steps (default unlimited)",
  "  --help,      -h         Show this help",
  "",
  "Notes:",
  "- Characters outside of Brainfuck's ><+-.,[] are ignored.",
  "- Input (`,`) is not supported and does nothing.",
  "- Cells wrap at 128 unless --modulus says otherwise.",
  "- An unmatched bracket stops the program when it is reached; the error is",
  "  printed with the offending instruction marked and the exit code is 1.",
  "",
  "Examples:",
  "- Load Brainfuck code from a file:",
  "    " ++ name ++ " run --file ./program.bf",
  "- Watch every step of a small loop:",
  "    " ++ name ++ " run --trace \"++[>+<-]>.\""]

/-- The usage of the command that opens the viewer. -/
def viewer (name : String) : String := ofLines [
  "Usage:",
  "  " ++ name ++
    " tui [OPTIONS] [\"<code>\"]   # Step through Brainfuck code in a terminal visualizer",
  "  " ++ name ++ " tui [OPTIONS] --file <PATH>",
  "",
  "Options:",
  "  --file,     -f <PATH>   Load Brainfuck code from PATH",
  "  --capacity, -c <CELLS>  Tape size (default 4096)",
  "  --modulus,  -m <M>      Cell wraparound, 2..=256 (default 128)",
  "  --run-delay <MS>        Delay between steps while running (default 25)",
  "  --ff-delay <MS>         Delay between steps while fast-forwarding (default 1)",
  "  --log <PATH>            Write diagnostics to PATH (filter with RUST_LOG)",
  "  --help,     -h          Show this help",
  "",
  "Description:",
  "  Shows the program, tape and output log, and executes one instruction at a",
  "  time. Without code, a Hello World program is loaded.",
  "",
  "Keys:",
  "    - s / Right   step          r / F5   run        f   fast-forward",
  "    - p / Space   pause         x        reset      a   toggle ASCII cells",
  "    - e           edit program (Ctrl+S or F5 applies, Esc cancels)",
  "    - Tab         switch pane   F1 / ?   help       q   quit"]

end TapeMachine.Command.Usage
