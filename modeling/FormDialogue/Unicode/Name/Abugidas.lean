import FormDialogue.Unicode.Name.Run

/-! # Names of letters in abugidas

The names of the scripts of the Indian subcontinent, in runs of their short form. -/

namespace FormDialogue.Unicode

def abugidaNames : List NameRun := [
  ⟨0x870, [
    "aARABIC LETTER ALEF WITH ATTACHED FATHAfTOP RIGHTneRIGHT MIDDLE STROKEeLEFToeATTACHED KASRA",
    "fBOTTOM RIGHTnfROUND DOT ABOVEfRIGHT ROUND DOTfLEFTofROUND DOT BELOWeDOT ABOVE",
    "eATTACHED TOP RIGHT FATHA ANDoeRIGHT MIDDLE STROKEpeATTACHED BOTTOM RIGHT KASRAp",
    "fTOP RIGHT FATHA AND LEFT RINGeRIGHT MIDDLE STROKEpeATTACHED BOTTOM RIGHT KASRApfRIGHT HAMZA",
    "fLEFTnbTATWEEL WITH OVERSTRUCKneWAWdTWO DOTS BELOWbLETTER THIN YEHbBASELINE ROUND DOT",
    "bRAISEDobLETTER NOON WITH INVERTED SMALL VcHAH WITH INVERTED SMALL V BELOWcTAH WITH DOTn",
    "eTHREE DOTSncKEHEH WITH TWO DOTS VERTICALLYnbVERTICAL TAIL_bPOUND MARK ABOVEbPIASTREo"]⟩,
  ⟨0x898, [
    "aARABIC SMALL HIGH WORD AL-JUZcLOW WORD ISHMAAMeIMAALAeTASHEELbMADDA WAAJIB",
    "bSUPERSCRIPT ALEF MOKHASSASbDOUBLED MADDAbHALF MADDA OVERnbLETTER BEH WITH SMALL V BELOW",
    "eHAMZA ABOVEcJEEM WITH TWO DOTSncTAHqcFEH WITH DOT BELOW AND THREEocQAF WITH DOT BELOW",
    "cLAM WITH DOUBLE BARcMEEM WITH THREE DOTS ABOVEcYEH WITH TWO DOTS BELOW AND HAMZAniDOTn",
    "cREH WITH LOOPcWAW WITH DOT WITHINcROHINGYA YEHcLOW ALEFcDAL WITH THREE DOTS BELOWcSADq",
    "cGAF WITH INVERTED STROKEcSTRAIGHT WAWcZAIN WITH INVERTED V ABOVEcAIN WITH THREE DOTS BELOW",
    "cKAF WITH DOTncQAF WITH DOT BELOW AND NO DOTS ABOVEcBEH WITH SMALL MEEMncPEHq",
    "cTEH WITH SMALL TEHncREH WITH SMALL NOONncYEH WITH TWO DOTS BELOW ANDpcAFRICAN FEHdQAFdNOON",
    "cPEH WITH SMALL VcTEHpcTTEHpcTCHEHpcKEHEHpcGHAIN WITH THREE DOTS ABOVEcAFRICAN QAFqcJEEMq",
    "gBELOWcLAM WITH SMALL ARABIC LETTER TAH ABOVEcGRAFbSMALL FARSI YEHcHIGHo",
    "dYEH BARREE WITH TWO DOTS BELOWdWORD SAHdZAHbLARGE ROUND DOT ABOVEeBELOWbSUKUNn",
    "bLARGE CIRCLEncROUND DOT INSIDEobSMALL LOW WAWcHIGH WORD AR-RUBdSADdAINdQAFdNOON WITH KASRA",
    "cLOWpcHIGH WORD ATH-THALATHAeAS-SAJDAeAN-NISFeSAKTAeQIFeWAQFAdFOOTNOTE MARKERdSIGN SAFHA",
    "bDISPUTED END OF AYAHbTURNED DAMMA BELOWbCURLY FATHAcDAMMAcKASRAcFATHATANcDAMMATANcKASRATAN",
    "bTONE ONE DOT ABOVEcTWO DOTSncLOOPncONE DOT BELOWcTWO DOTSncLOOPnbOPEN FATHATANcDAMMATAN",
    "cKASRATANbSMALL HIGH WAWbFATHA WITH RINGdDOT ABOVEbKASRA WITH DOT BELOWbLEFT ARROWHEAD ABOVE",
    "bRIGHTobLEFT ARROWHEAD BELOWbRIGHTobDOUBLE RIGHT ARROWHEAD ABOVEfWITH DOTbrbDAMMAo",
    "bMARK SIDEWAYS NOON GHUNNAaDEVANAGARI SIGN INVERTED CANDRABINDUcncANUSVARAcVISARGA",
    "bLETTER SHORT AcncAAcIcIIcUcUUcVOCALIC RdLcCANDRA EcSHORTncncAIcCANDRA OcSHORTncncAUcKAcKHA",
    "cGAcGHAcNGAcCAcCHAcJAcJHAcNYAcTTAcTTHAcDDAcDDHAcNNAcTAcTHAcDAcDHAcNAcNNNAcPAcPHAcBAcBHAcMA",
    "cYAcRAcRRAcLAcLLAcLLLAcVAcSHAcSSAcSAcHAbVOWEL SIGN OEdOOEbSIGN NUKTAcAVAGRAHAbVOWEL SIGN AA",
    "dIdIIdUdUUdVOCALIC ReRRdCANDRA EdSHORTndndAIdCANDRA OdSHORTndndAUbSIGN VIRAMA",
    "bVOWEL SIGN PRISHTHAMATRA EdAWbOMbSTRESS SIGN UDATTAdANUDATTAbGRAVE ACCENTbACUTEn",
    "bVOWEL SIGN CANDRA LONG EdUEdUUEbLETTER QAcKHHAcGHHAcZAcDDDHAcRHAcFAcYYAcVOCALIC RRdLL",
    "bVOWEL SIGN VOCALIC LeLLbDANDAbDOUBLEnbDIGIT ZEROcONEcTWOcTHREEcFOURcFIVEcSIXcSEVENcEIGHT",
    "cNINEbABBREVIATION SIGNbSIGN HIGH SPACING DOTbLETTER CANDRA AcOEcOOEcAWcUEcUUEcMARWARI DDA",
    "cZHAcHEAVY YAcGGAcJJAcGLOTTAL STOPcDDDAcBBAaBENGALI ANJIbSIGN CANDRABINDUcANUSVARAcVISARGA_",
    "bLETTER AcAAcIcIIcUcUUcVOCALIC RdL__cEcAI__cOcAUcKAcKHAcGAcGHAcNGAcCAcCHAcJAcJHAcNYAcTTA",
    "cTTHAcDDAcDDHAcNNAcTAcTHAcDAcDHAcNA_cPAcPHAcBAcBHAcMAcYAcRA_cLA___cSHAcSSAcSAcHA__",
    "bSIGN NUKTAcAVAGRAHAbVOWEL SIGN AAdIdIIdUdUUdVOCALIC ReRR__dEdAI__dOdAUbSIGN VIRAMA",
    "bLETTER KHANDA TA"]⟩,
  ⟨0x9D7, [
    "aBENGALI AU LENGTH MARK"]⟩,
  ⟨0x9DC, [
    "aBENGALI LETTER RRAcRHA_cYYAcVOCALIC RRdLLbVOWEL SIGN VOCALIC LeLL__bDIGIT ZEROcONEcTWO",
    "cTHREEcFOURcFIVEcSIXcSEVENcEIGHTcNINEbLETTER RA WITH MIDDLE DIAGONALeLOWERnbRUPEE MARKcSIGN",
    "bCURRENCY NUMERATOR ONEdTWOdTHREEdFOURdONE LESS THAN THE DENOMINATORcDENOMINATOR SIXTEEN",
    "bISSHARbGANDA MARKbLETTER VEDIC ANUSVARAbABBREVIATION SIGNbSANDHI MARK__",
    "aGURMUKHI SIGN ADAK BINDIcncVISARGA_bLETTER AcAAcIcIIcUcUU"]⟩,
  ⟨0xA0F, [
    "aGURMUKHI LETTER EEcAI__cOOcAUcKAcKHAcGAcGHAcNGAcCAcCHAcJAcJHAcNYAcTTAcTTHAcDDAcDDHAcNNAcTA",
    "cTHAcDAcDHAcNA_cPAcPHAcBAcBHAcMAcYAcRA_cLAcLLA_cVAcSHA_cSAcHA__bSIGN NUKTA_bVOWEL SIGN AAdI",
    "dIIdUdUU"]⟩,
  ⟨0xA47, [
    "aGURMUKHI VOWEL SIGN EEdAI__dOOdAUbSIGN VIRAMA___cUDAAT"]⟩,
  ⟨0xA59, [
    "aGURMUKHI LETTER KHHAcGHHAcZAcRRA_cFA"]⟩,
  ⟨0xA66, [
    "aGURMUKHI DIGIT ZEROcONEcTWOcTHREEcFOURcFIVEcSIXcSEVENcEIGHTcNINEbTIPPIbADDAKbIRIbURA",
    "bEK ONKARbSIGN YAKASHbABBREVIATION SIGN"]⟩,
  ⟨0xA81, [
    "aGUJARATI SIGN CANDRABINDUcANUSVARAcVISARGA_bLETTER AcAAcIcIIcUcUUcVOCALIC RdL",
    "bVOWEL CANDRA E_bLETTERncAIbVOWEL CANDRA O_bLETTERncAUcKAcKHAcGAcGHAcNGAcCAcCHAcJAcJHAcNYA",
    "cTTAcTTHAcDDAcDDHAcNNAcTAcTHAcDAcDHAcNA_cPAcPHAcBAcBHAcMAcYAcRA_cLAcLLA_cVAcSHAcSSAcSAcHA__",
    "bSIGN NUKTAcAVAGRAHAbVOWEL SIGN AAdIdIIdUdUUdVOCALIC ReRRdCANDRA E_dndAIdCANDRA O_dndAU",
    "bSIGN VIRAMA__bOM"]⟩,
  ⟨0xAE0, [
    "aGUJARATI LETTER VOCALIC RRdLLbVOWEL SIGN VOCALIC LeLL__bDIGIT ZEROcONEcTWOcTHREEcFOURcFIVE",
    "cSIXcSEVENcEIGHTcNINEbABBREVIATION SIGNbRUPEEn"]⟩,
  ⟨0xAF9, [
    "aGUJARATI LETTER ZHAbSIGN SUKUNcSHADDAcMADDAHcTHREE-DOT NUKTA ABOVEcCIRCLEocTWO-CIRCLEo_",
    "aORIYA SIGN CANDRABINDUcANUSVARAcVISARGA_bLETTER AcAAcIcIIcUcUUcVOCALIC RdL__cEcAI__cOcAUcKA",
    "cKHAcGAcGHAcNGAcCAcCHAcJAcJHAcNYAcTTAcTTHAcDDAcDDHAcNNAcTAcTHAcDAcDHAcNA_cPAcPHAcBAcBHAcMA",
    "cYAcRA_cLAcLLA_cVAcSHAcSSAcSAcHA__bSIGN NUKTAcAVAGRAHAbVOWEL SIGN AAdIdIIdUdUUdVOCALIC ReRR_",
    "_dEdAI__dOdAUbSIGN VIRAMA"]⟩,
  ⟨0xB55, [
    "aORIYA SIGN OVERLINEbAI LENGTH MARKbAUo"]⟩,
  ⟨0xB5C, [
    "aORIYA LETTER RRAcRHA_cYYAcVOCALIC RRdLLbVOWEL SIGN VOCALIC LeLL__bDIGIT ZEROcONEcTWOcTHREE",
    "cFOURcFIVEcSIXcSEVENcEIGHTcNINEbISSHARbLETTER WAbFRACTION ONE QUARTERdHALFcTHREE QUARTERS",
    "cONE SIXTEENTHdEIGHTHcTHREE SIXTEENTHS"]⟩,
  ⟨0xB82, [
    "aTAMIL SIGN ANUSVARAcVISARGA_bLETTER AcAAcIcIIcUcUU___cEcEEcAI_cOcOOcAUcKA___cNGAcCA_cJA_",
    "cNYAcTTA___cNNAcTA___cNAcNNNAcPA___cMAcYAcRAcRRAcLAcLLAcLLLAcVAcSHAcSSAcSAcHA"]⟩,
  ⟨0xBBE, [
    "aTAMIL VOWEL SIGN AAdIdIIdUdUU___dEdEEdAI_dOdOOdAUbSIGN VIRAMA__bOM"]⟩,
  ⟨0xBD7, [
    "aTAMIL AU LENGTH MARK"]⟩,
  ⟨0xBE6, [
    "aTAMIL DIGIT ZEROcONEcTWOcTHREEcFOURcFIVEcSIXcSEVENcEIGHTcNINEbNUMBER TENcONE HUNDRED",
    "dTHOUSANDbDAY SIGNbMONTHnbYEARnbDEBITnbCREDITnbAS ABOVEnbRUPEEnbNUMBERn"]⟩,
  ⟨0xC00, [
    "aTELUGU SIGN COMBINING CANDRABINDU ABOVEcCANDRABINDUcANUSVARAcVISARGA",
    "cCOMBINING ANUSVARA ABOVEbLETTER AcAAcIcIIcUcUUcVOCALIC RdL_cEcEEcAI_cOcOOcAUcKAcKHAcGAcGHA",
    "cNGAcCAcCHAcJAcJHAcNYAcTTAcTTHAcDDAcDDHAcNNAcTAcTHAcDAcDHAcNA_cPAcPHAcBAcBHAcMAcYAcRAcRRAcLA",
    "cLLAcLLLAcVAcSHAcSSAcSAcHA__bSIGN NUKTAcAVAGRAHAbVOWEL SIGN AAdIdIIdUdUUdVOCALIC ReRR_dEdEE",
    "dAI_dOdOOdAUbSIGN VIRAMA"]⟩,
  ⟨0xC55, [
    "aTELUGU LENGTH MARKbAIo_bLETTER TSAcDZAcRRRA__cNAKAARA POLLU__cVOCALIC RRdLL",
    "bVOWEL SIGN VOCALIC LeLL__bDIGIT ZEROcONEcTWOcTHREEcFOURcFIVEcSIXcSEVENcEIGHTcNINE"]⟩,
  ⟨0xC77, [
    "aTELUGU SIGN SIDDHAMbFRACTION DIGIT ZERO FOR ODD POWERS OF FOURdONErdTWOrdTHREEr",
    "dONE FOR EVENpdTWOrdTHREErbSIGN TUUMUaKANNADA SIGN SPACING CANDRABINDUcncANUSVARAcVISARGA",
    "cSIDDHAMbLETTER AcAAcIcIIcUcUUcVOCALIC RdL_cEcEEcAI_cOcOOcAUcKAcKHAcGAcGHAcNGAcCAcCHAcJAcJHA",
    "cNYAcTTAcTTHAcDDAcDDHAcNNAcTAcTHAcDAcDHAcNA_cPAcPHAcBAcBHAcMAcYAcRAcRRAcLAcLLA_cVAcSHAcSSA",
    "cSAcHA__bSIGN NUKTAcAVAGRAHAbVOWEL SIGN AAdIdIIdUdUUdVOCALIC ReRR_dEdEEdAI_dOdOOdAU",
    "bSIGN VIRAMA"]⟩,
  ⟨0xCD5, [
    "aKANNADA LENGTH MARKbAIo"]⟩,
  ⟨0xCDD, [
    "aKANNADA LETTER NAKAARA POLLUcFA_cVOCALIC RRdLLbVOWEL SIGN VOCALIC LeLL__bDIGIT ZEROcONEcTWO",
    "cTHREEcFOURcFIVEcSIXcSEVENcEIGHTcNINE_bSIGN JIHVAMULIYAcUPADHMANIYA"]⟩,
  ⟨0xD00, [
    "aMALAYALAM SIGN COMBINING ANUSVARA ABOVEcCANDRABINDUcANUSVARAcVISARGAbLETTER VEDIC ANUSVARA",
    "cAcAAcIcIIcUcUUcVOCALIC RdL_cEcEEcAI_cOcOOcAUcKAcKHAcGAcGHAcNGAcCAcCHAcJAcJHAcNYAcTTAcTTHA",
    "cDDAcDDHAcNNAcTAcTHAcDAcDHAcNAcNNNAcPAcPHAcBAcBHAcMAcYAcRAcRRAcLAcLLAcLLLAcVAcSHAcSSAcSAcHA",
    "cTTTAbSIGN VERTICAL BAR VIRAMAcCIRCULARncAVAGRAHAbVOWEL SIGN AAdIdIIdUdUUdVOCALIC ReRR_dEdEE",
    "dAI_dOdOOdAUbSIGN VIRAMAbLETTER DOT REPHbSIGN PARA"]⟩,
  ⟨0xD54, [
    "aMALAYALAM LETTER CHILLU MdYdLLLbAU LENGTH MARKbFRACTION ONE ONE-HUNDRED-AND-SIXTIETH",
    "dFORTIETHcTHREE EIGHTIETHScONE TWENTIETHdTENTHcTHREE TWENTIETHScONE FIFTHbLETTER ARCHAIC II",
    "cVOCALIC RRdLLbVOWEL SIGN VOCALIC LeLL__bDIGIT ZEROcONEcTWOcTHREEcFOURcFIVEcSIXcSEVENcEIGHT",
    "cNINEbNUMBER TENcONE HUNDREDdTHOUSANDbFRACTION ONE QUARTERdHALFcTHREE QUARTERScONE SIXTEENTH",
    "dEIGHTHcTHREE SIXTEENTHSbDATE MARKbLETTER CHILLU NNdNdRRdLdLLdK_aSINHALA SIGN CANDRABINDU",
    "cANUSVARAYAcVISARGAYA_bLETTER AYANNAcAAYANNAcAEYANNAcAEEYANNAcIYANNAcIIYANNAcUYANNAcUUYANNA",
    "cIRUYANNAcIRUUYANNAcILUYANNAcILUUYANNAcEYANNAcEEYANNAcAIYANNAcOYANNAcOOYANNAcAUYANNA___",
    "cALPAPRAANA KAYANNAcMAHAAPRAANAncALPAPRAANA GAYANNAcMAHAAPRAANAncKANTAJA NAASIKYAYA",
    "cSANYAKA GAYANNAcALPAPRAANA CAYANNAcMAHAAPRAANAncALPAPRAANA JAYANNAcMAHAAPRAANAn",
    "cTAALUJA NAASIKYAYAdSANYOOGA NAAKSIKYAYAcSANYAKA JAYANNAcALPAPRAANA TTAYANNAcMAHAAPRAANAn",
    "cALPAPRAANA DDAYANNAcMAHAAPRAANAncMUURDHAJA NAYANNAcSANYAKA DDAYANNAcALPAPRAANA TAYANNA",
    "cMAHAAPRAANAncALPAPRAANA DAYANNAcMAHAAPRAANAncDANTAJA NAYANNA_cSANYAKA DAYANNA",
    "cALPAPRAANA PAYANNAcMAHAAPRAANAncALPAPRAANA BAYANNAcMAHAAPRAANAncMAYANNAcAMBA BAYANNA",
    "cYAYANNAcRAYANNA_cDANTAJA LAYANNA__cVAYANNAcTAALUJA SAYANNAcMUURDHAJAncDANTAJAncHAYANNA",
    "cMUURDHAJA LAYANNAcFAYANNA___bSIGN AL-LAKUNA"]⟩,
  ⟨0xDCF, [
    "aSINHALA VOWEL SIGN AELA-PILLAdKETTI AEDA-PILLAdDIGAndKETTI IS-PILLAdDIGAndKETTI PAA-PILLA_",
    "dDIGAn_dGAETTA-PILLAdKOMBUVAdDIGAndKOMBU DEKAdKOMBUVA HAA AELA-PILLAfDIGAnfGAYANUKITTAdn"]⟩,
  ⟨0xDE6, [
    "aSINHALA LITH DIGIT ZEROdONEdTWOdTHREEdFOURdFIVEdSIXdSEVENdEIGHTdNINE__",
    "bVOWEL SIGN DIGA GAETTA-PILLAeGAYANUKITTAbPUNCTUATION KUNDDALIYA"]⟩,
  ⟨0xE01, [
    "aTHAI CHARACTER KO KAIcKHO KHAIdKHUATdKHWAIdKHONdRAKHANGcNGO NGUcCHO CHANdCHINGdCHANGcSO SO",
    "cCHO CHOEcYO YINGcDO CHADAcTO PATAKcTHO THANdNANGMONTHOdPHUTHAOcNO NENcDO DEKcTO TAO",
    "cTHO THUNGdTHAHANdTHONGcNO NUcBO BAIMAIcPO PLAcPHO PHUNGcFO FAcPHO PHANcFO FANcPHO SAMPHAO",
    "cMO MAcYO YAKcRO RUAcRUcLO LINGcLUcWO WAENcSO SALAdRUSIdSUAcHO HIPcLO CHULAcO ANGcHO NOKHUK",
    "cPAIYANNOIcSARA AcMAI HAN-AKATcSARA AAdAMdIdIIdUEdUEEdUdUUcPHINTHU"]⟩,
  ⟨0xE3F, [
    "aTHAI CURRENCY SYMBOL BAHTbCHARACTER SARA EdAEdOdAI MAIMUANeMAIMALAIcLAKKHANGYAOcMAIYAMOK",
    "cMAITAIKHUcMAI EKdTHOdTRIdCHATTAWAcTHANTHAKHATcNIKHAHITcYAMAKKANcFONGMANbDIGIT ZEROcONEcTWO",
    "cTHREEcFOURcFIVEcSIXcSEVENcEIGHTcNINEbCHARACTER ANGKHANKHUcKHOMUT"]⟩,
  ⟨0xE81, [
    "aLAO LETTER KOcKHO SUNG_dTAM_cPALI GHAcNGOcCOcPALI CHAcSO TAM_cPALI JHAcNYOcPALI NYAdTTA",
    "dTTHAdDDAdDDHAdNNAcDOcTOcTHO SUNGdTAMcPALI DHAcNOcBOcPOcPHO SUNGcFO TAMcPHOncFO SUNG",
    "cPALI BHAcMOcYOcLO LING_dLOOT_cWOcSANSKRIT SHAdSSAcSO SUNGcHOncPALI LLAcOcHO TAMbELLIPSIS",
    "bVOWEL SIGN AdMAI KANdAAdAMdIdIIdYdYYdUdUUbSIGN PALI VIRAMAbVOWEL SIGN MAI KON",
    "bSEMIVOWEL SIGN LOdNYO__bVOWEL SIGN EdEIdOdAYdAI_bKO LA_bTONE MAI EKdTHOdTIdCATAWA",
    "bCANCELLATION MARKbNIGGAHITA__bDIGIT ZEROcONEcTWOcTHREEcFOURcFIVEcSIXcSEVENcEIGHTcNINE__",
    "bHO NOcMObLETTER KHMU GOdNYO"]⟩,
  ⟨0xF00, [
    "aTIBETAN SYLLABLE OMbMARK GTER YIG MGO TRUNCATED Af-UM RNAM BCAD MAgGTER TSHEGn",
    "cINITIAL YIG MGO MDUNncCLOSING YIG MGO SGABncCARET YIG MGO PHUR SHADncYIG MGO TSHEGo",
    "cSBRUL SHADcBSKUR YIG MGOcBKA- SHOGocINTERSYLLABIC TSHEGcDELIMITER TSHEG BSTARcSHADcNYISn",
    "cTSHEGncNYISocRIN CHEN SPUNGSncRGYA GRAMncCARET -DZUD RTAGS ME LONG CANcGTER TSHEG",
    "bLOGOTYPE SIGN CHAD RTAGSdLHAGnbASTROLOGICAL SIGN SGRA GCAN -CHARnd-KHYUD PAdSDONG TSHUGS",
    "bSIGN RDEL DKAR GCIGeGNYISeGSUMdNAG GCIGeGNYISdDKAR RDEL NAGbDIGIT ZEROcONEcTWOcTHREEcFOUR",
    "cFIVEcSIXcSEVENcEIGHTcNINEcHALF ONEdTWOdTHREEdFOURdFIVEdSIXdSEVENdEIGHTdNINEdZERO",
    "bMARK BSDUS RTAGScNGAS BZUNG NYI ZLAcCARET -DZUD RTAGS BZHI MIG CANcNGAS BZUNG SGOR RTAGS",
    "cCHE MGOcTSA -PHRUcGUG RTAGS GYONeGYAScANG KHANG GYONeGYASbSIGN YAR TSHEScMARnbLETTER KAcKHA",
    "cGAcGHAcNGAcCAcCHAcJA_cNYAcTTAcTTHAcDDAcDDHAcNNAcTAcTHAcDAcDHAcNAcPAcPHAcBAcBHAcMAcTSAcTSHA",
    "cDZAcDZHAcWAcZHAcZAc-AcYAcRAcLAcSHAcSSAcSAcHAcAcKSSAcFIXED-FORM RAcKKAcRRA"]⟩,
  ⟨0xF71, [
    "aTIBETAN VOWEL SIGN AAdIdIIdUdUUdVOCALIC ReRReLeLLdEdEEdOdOObSIGN RJES SU NGA ROcRNAM BCAD",
    "bVOWEL SIGN REVERSED IeIIbSIGN NYI ZLA NAA DAcSNA LDANbMARK HALANTAcPALUTAbSIGN LCI RTAGS",
    "cYANGncLCE TSA CANcMCHUncGRU CAN RGYINGSdMEDncINVERTED MCHU CANbSUBJOINED SIGN LCE TSAn",
    "dMCHUndINVERTEDocLETTER KAdKHAdGAdGHAdNGAdCAdCHAdJA_dNYAdTTAdTTHAdDDAdDDHAdNNAdTAdTHAdDAdDHA",
    "dNAdPAdPHAdBAdBHAdMAdTSAdTSHAdDZAdDZHAdWAdZHAdZAd-AdYAdRAdLAdSHAdSSAdSAdHAdAdKSSA",
    "dFIXED-FORM WAeYAeRA_bKU RU KHAeBZHI MIG CANbCANTILLATION SIGN HEAVY BEATdLIGHTndCANG TE-U",
    "dSBUB -CHALbSYMBOL DRIL BUcRDO RJEcPADMA GDANcRDO RJE RGYA GRAMcPHUR PAcNOR BUeNYIS -KHYIL",
    "eGSUMneBZHIn_bSIGN RDEL NAG RDEL DKAReGSUMbMARK BSKA- SHOG GI MGO RGYANcMNYAM YIGp",
    "cNYIS TSHEGcINITIAL BRDA RNYING YIG MGO MDUN MAcCLOSING BRDA RNYING YIG MGO SGABn",
    "aRIGHT-FACING SVASTI SIGNaLEFT-FACINGoaRIGHT-FACING SVASTI SIGN WITH DOTSaLEFT-FACINGq",
    "aTIBETAN MARK LEADING MCHAN RTAGScTRAILINGo"]⟩]

end FormDialogue.Unicode
