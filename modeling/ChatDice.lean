import ChatDice.Log.Collector
import ChatDice.Main
import ChatDice.Proofs.Dice.Exact
import ChatDice.Proofs.Dice.Fair
import ChatDice.Proofs.Play.Verdict
import ChatDice.Proofs.Play.Advantage
import ChatDice.Proofs.Play.Bounds
import ChatDice.Proofs.Request.Case
import ChatDice.Proofs.Request.Lexer
import ChatDice.Proofs.Request.Modified
import ChatDice.Proofs.Request.Rejoined
import ChatDice.Proofs.Request.WellFormed
import ChatDice.Proofs.Transcript.Reading
import ChatDice.Proofs.Reply.Conflict
import ChatDice.Proofs.Reply.Fault
import ChatDice.Proofs.Chat.Wire
import ChatDice.Proofs.Chat.Respelled
import ChatDice.Proofs.Console.Concatenation
