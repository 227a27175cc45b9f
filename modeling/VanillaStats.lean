import VanillaStats.Counter
import VanillaStats.Tag
import VanillaStats.Parser
import VanillaStats.Report
import VanillaStats.Proof.Step
import VanillaStats.Proof.Tile
import VanillaStats.Proof.Credits
import VanillaStats.Proof.Group
import VanillaStats.Proof.Totals
import VanillaStats.Proof.Report
import VanillaStats.Proof.Rollup
import VanillaStats.Proof.Errors
import VanillaStats.Proof.Order
import VanillaStats.Proof.Inclusive
import VanillaStats.Proof.Tags
