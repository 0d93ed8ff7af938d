import Checkout.Command.Arguments
import Checkout.Command.Console
import Checkout.Yaml.File

/-!
# The toolbox of the command

The tools that the program runs with: readers of YAML and of arguments, and a console.
-/

namespace Checkout.Command

/-- The tools that the program runs with. -/
def toolbox : Tools where
  load := Yaml.load
  ask tree current _ arguments := ask tree current arguments
  print := Console.print
  printMessage environment message :=
    Console.printMessage environment message.label message.parts

end Checkout.Command
