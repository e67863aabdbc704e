import LuaSession.Host
import LuaSession.Main
import LuaSession.Proofs.Session.Output
import LuaSession.Proofs.Channel.Delivery
import LuaSession.Proofs.Channel.Order
import LuaSession.Proofs.CommandLine.Files
import LuaSession.Proofs.Console.BreakingOff
import LuaSession.Proofs.Console.Conversation
import LuaSession.Proofs.Console.Holding
import LuaSession.Proofs.Console.Parts
import LuaSession.Proofs.Console.Prompts
import LuaSession.Proofs.Console.Transcript
import LuaSession.Proofs.Failure.Traceback
import LuaSession.Proofs.Host.Apart
import LuaSession.Proofs.Host.Execution
import LuaSession.Proofs.Host.Opening
import LuaSession.Proofs.Host.Panics
import LuaSession.Proofs.Library.Files
import LuaSession.Proofs.Library.Pieces
import LuaSession.Proofs.Library.Writing
import LuaSession.Proofs.Script.Listing
import LuaSession.Proofs.Session.Binding
import LuaSession.Proofs.Session.Catalogue
import LuaSession.Proofs.Session.Location
import LuaSession.Proofs.Session.Printing
import LuaSession.Proofs.Settings.Reading
import LuaSession.Proofs.Settings.Unknown
import LuaSession.Proofs.Settings.Writing
