import JitHost.Command.Option

/-!
# Help texts

What the command line says about itself.
-/

namespace JitHost

/-- The help about a verb, or about all of them. -/
def helpText : Option Verb → String
  | none => "Compile Cranelift IR in-process and run it against the host runtime

Usage: quill [OPTIONS] <COMMAND>

Commands:
  run      Compile, relocate and call an entry routine
  check    Compile a source file and report diagnostics
  symbols  Print the addresses of relocated symbols
  help     Print this message or the help of the given subcommand(s)

Options:
  -v, --verbose...     Increase logging verbosity
  -q, --quiet...       Decrease logging verbosity
      --config <PATH>  Config file to use instead of the nearest quill.toml
  -h, --help           Print help
"
  | some .run => "Compile, relocate and call an entry routine

Usage: quill run [OPTIONS] <FILE> [ARGS]...

Arguments:
  <FILE>     CLIF source file
  [ARGS]...  Arguments passed to the routine; numbers are passed as numbers

Options:
  -e, --entry <NAME>   Routine to call (defaults to [run].entry, then \"main\")
  -v, --verbose...     Increase logging verbosity
      --no-api         Don't expose the host API to the compiled code
  -q, --quiet...       Decrease logging verbosity
      --config <PATH>  Config file to use instead of the nearest quill.toml
  -h, --help           Print help
"
  | some .check => "Compile a source file and report diagnostics

Usage: quill check [OPTIONS] <FILE>

Arguments:
  <FILE>  

Options:
  -v, --verbose...     Increase logging verbosity
  -q, --quiet...       Decrease logging verbosity
      --config <PATH>  Config file to use instead of the nearest quill.toml
  -h, --help           Print help
"
  | some .symbols => "Print the addresses of relocated symbols

Usage: quill symbols [OPTIONS] <FILE> <NAME>...

Arguments:
  <FILE>     
  <NAME>...  Symbols to look up

Options:
      --no-api         Don't expose the host API to the compiled code
  -v, --verbose...     Increase logging verbosity
  -q, --quiet...       Decrease logging verbosity
      --config <PATH>  Config file to use instead of the nearest quill.toml
  -h, --help           Print help
"

end JitHost
