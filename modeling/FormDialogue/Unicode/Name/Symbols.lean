import FormDialogue.Unicode.Name.Run

/-! # Names of symbols

The names of punctuation, currencies, arrows, mathematical operators and other symbols, in runs of
their short form. -/

namespace FormDialogue.Unicode

def symbolNames : List NameRun := [
  ⟨0x20D0, [
    "aCOMBINING LEFT HARPOON ABOVEbRIGHTobLONG VERTICAL LINE OVERLAYbSHORTp",
    "bANTICLOCKWISE ARROW ABOVEbCLOCKWISEobLEFTobRIGHTobRING OVERLAYbCLOCKWISEobANTICLOCKWISEo",
    "bTHREE DOTS ABOVEbFOURobENCLOSING CIRCLEcSQUAREcDIAMONDcCIRCLE BACKSLASH",
    "bLEFT RIGHT ARROW ABOVEbENCLOSING SCREENcKEYCAPcUPWARD POINTING TRIANGLE",
    "bREVERSE SOLIDUS OVERLAYbDOUBLE VERTICAL STROKEnbANNUITY SYMBOLbTRIPLE UNDERDOT",
    "bWIDE BRIDGE ABOVEbLEFTWARDS ARROW OVERLAYbLONG DOUBLE SOLIDUSn",
    "bRIGHTWARDS HARPOON WITH BARB DOWNWARDSbLEFTWARDSqbLEFT ARROW BELOWbRIGHTobASTERISK ABOVE"]⟩,
  ⟨0x2100, [
    "aACCOUNT OFaADDRESSED TO THE SUBJECTaDOUBLE-STRUCK CAPITAL CaDEGREE CELSIUS",
    "aCENTRE LINE SYMBOLaCARE OFaCADA UNAaEULER CONSTANTaSCRUPLEaDEGREE FAHRENHEITaSCRIPT SMALL G",
    "bCAPITAL HaBLACK-LETTERoaDOUBLE-STRUCKoaPLANCK CONSTANTcOVER TWO PIaSCRIPT CAPITAL I",
    "aBLACK-LETTERoaSCRIPT CAPITAL LbSMALLnaL B BAR SYMBOLaDOUBLE-STRUCK CAPITAL NaNUMERO SIGN",
    "aSOUND RECORDING COPYRIGHTaSCRIPT CAPITAL PaDOUBLE-STRUCKocQaSCRIPT CAPITAL RaBLACK-LETTERo",
    "aDOUBLE-STRUCKoaPRESCRIPTION TAKEaRESPONSEaSERVICE MARKaTELEPHONE SIGNaTRADE MARKnaVERSICLE",
    "aDOUBLE-STRUCK CAPITAL ZaOUNCE SIGNaOHMnaINVERTEDoaBLACK-LETTER CAPITAL Z",
    "aTURNED GREEK SMALL LETTER IOTAaKELVIN SIGNaANGSTROMnaSCRIPT CAPITAL B",
    "aBLACK-LETTER CAPITAL CaESTIMATED SYMBOLaSCRIPT SMALL EbCAPITALncFaTURNEDoaSCRIPT CAPITAL M",
    "bSMALL OaALEF SYMBOLaBETnaGIMELnaDALETnaINFORMATION SOURCEaROTATED CAPITAL QaFACSIMILE SIGN",
    "aDOUBLE-STRUCK SMALL PIcGAMMAbCAPITALncPIbN-ARY SUMMATIONaTURNED SANS-SERIF CAPITAL GdL",
    "aREVERSEDpaTURNED SANS-SERIF CAPITAL YaDOUBLE-STRUCK ITALIC CAPITAL DcSMALLndEdIdJ",
    "aPROPERTY LINEaTURNED AMPERSANDaPER SIGNaAKTIESELSKABaTURNED SMALL F",
    "aSYMBOL FOR SAMARITAN SOURCEaVULGAR FRACTION ONE SEVENTHdNINTHdTENTHdTHIRDcTWO THIRDS",
    "cONE FIFTHcTWO FIFTHScTHREEncFOURncONE SIXTHcFIVE SIXTHScONE EIGHTHcTHREE EIGHTHScFIVEn",
    "cSEVENnaFRACTION NUMERATOR ONEaROMAN NUMERALncTWOcTHREEcFOURcFIVEcSIXcSEVENcEIGHTcNINEcTEN",
    "cELEVENcTWELVEcFIFTYcONE HUNDREDcFIVEncONE THOUSANDaSMALL ROMAN NUMERAL ONEdTWOdTHREEdFOUR",
    "dFIVEdSIXdSEVENdEIGHTdNINEdTENdELEVENdTWELVEdFIFTYdONE HUNDREDdFIVEndONE THOUSAND",
    "aROMAN NUMERAL ONE THOUSAND C DcFIVE THOUSANDcTENncREVERSED ONE HUNDRED",
    "aLATIN SMALL LETTER REVERSED CaROMAN NUMERAL SIX LATE FORMcFIFTY EARLYndTHOUSAND",
    "cONE HUNDREDnaVULGAR FRACTION ZERO THIRDSaTURNED DIGIT TWOcTHREE"]⟩,
  ⟨0x2190, [
    "aLEFTWARDS ARROWaUPWARDSnaRIGHTWARDSnaDOWNWARDSnaLEFT RIGHTnaUP DOWNnaNORTH WESTnbEASTn",
    "aSOUTHobWESTnaLEFTWARDS ARROW WITH STROKEaRIGHTWARDSpaLEFTWARDS WAVE ARROWaRIGHTWARDSo",
    "aLEFTWARDS TWO HEADEDnaUPWARDSpaRIGHTWARDSpaDOWNWARDSpaLEFTWARDS ARROW WITH TAILaRIGHTWARDSp",
    "aLEFTWARDS ARROW FROM BARaUPWARDSpaRIGHTWARDSpaDOWNWARDSpaUP DOWN ARROW WITH BASE",
    "aLEFTWARDS ARROW WITH HOOKaRIGHTWARDSpaLEFTWARDS ARROW WITH LOOPaRIGHTWARDSp",
    "aLEFT RIGHT WAVE ARROWcARROW WITH STROKEaDOWNWARDS ZIGZAG ARROW",
    "aUPWARDS ARROW WITH TIP LEFTWARDSeRIGHTWARDSaDOWNWARDS ARROW WITH TIP LEFTWARDSeRIGHTWARDS",
    "aRIGHTWARDS ARROW WITH CORNER DOWNWARDSaDOWNWARDS ARROW WITH CORNER LEFTWARDS",
    "aANTICLOCKWISE TOP SEMICIRCLE ARROWaCLOCKWISEpaNORTH WEST ARROW TO LONG BAR",
    "aLEFTWARDS ARROW TO BAR OVER RIGHTWARDS ARROW TOnaANTICLOCKWISE OPEN CIRCLE ARROWaCLOCKWISEp",
    "aLEFTWARDS HARPOON WITH BARB UPWARDSeDOWNWARDSaUPWARDS HARPOON WITH BARB RIGHTWARDS",
    "eLEFTWARDSaRIGHTWARDS HARPOON WITH BARB UPWARDSeDOWNWARDS",
    "aDOWNWARDS HARPOON WITH BARB RIGHTWARDSeLEFTWARDSaRIGHTWARDS ARROW OVER LEFTWARDS ARROW",
    "aUPWARDS ARROW LEFTWARDS OF DOWNWARDSnaLEFTWARDS ARROW OVER RIGHTWARDSnbPAIRED ARROWS",
    "aUPWARDSoaRIGHTWARDSoaDOWNWARDSoaLEFTWARDS HARPOON OVER RIGHTWARDS HARPOON",
    "aRIGHTWARDS HARPOON OVER LEFTWARDSnaLEFTWARDS DOUBLE ARROW WITH STROKEaLEFT RIGHTq",
    "aRIGHTWARDSqaLEFTWARDS DOUBLE ARROWaUPWARDSoaRIGHTWARDSoaDOWNWARDSoaLEFT RIGHToaUP DOWNo",
    "aNORTH WESTobEASToaSOUTHpbWESToaLEFTWARDS TRIPLEnaRIGHTWARDSoaLEFTWARDS SQUIGGLEn",
    "aRIGHTWARDSoaUPWARDS ARROW WITH DOUBLE STROKEaDOWNWARDSqaLEFTWARDS DASHED ARROWaUPWARDSo",
    "aRIGHTWARDSoaDOWNWARDSoaLEFTWARDS ARROW TO BARaRIGHTWARDSpaLEFTWARDS WHITE ARROWaUPWARDSo",
    "aRIGHTWARDSoaDOWNWARDSoaUPWARDS WHITE ARROW FROM BARdON PEDESTALfWITH HORIZONTAL BAR",
    "gVERTICALncDOUBLE ARROWeON PEDESTALaRIGHTWARDS WHITE ARROW FROM WALL",
    "aNORTH WEST ARROW TO CORNERaSOUTH EASTpaUP DOWN WHITE ARROWaRIGHT ARROW WITH SMALL CIRCLE",
    "aDOWNWARDS ARROW LEFTWARDS OF UPWARDS ARROWaTHREE RIGHTWARDS ARROWS",
    "aLEFTWARDS ARROW WITH VERTICAL STROKEaRIGHTWARDSqaLEFT RIGHTqaLEFTWARDS ARROW WITH DOUBLEo",
    "aRIGHTWARDSraLEFT RIGHTraLEFTWARDS OPEN-HEADED ARROWaRIGHTWARDSoaLEFT RIGHToaFOR ALL",
    "aCOMPLEMENTaPARTIAL DIFFERENTIALaTHERE EXISTSbDOES NOT EXISTaEMPTY SETaINCREMENTaNABLA",
    "aELEMENT OFaNOT ANoaSMALLoaCONTAINS AS MEMBERaDOES NOT CONTAINoaSMALL CONTAINSoaEND OF PROOF",
    "aN-ARY PRODUCTbCOPRODUCTbSUMMATIONaMINUS SIGNaMINUS-OR-PLUSnaDOT PLUSaDIVISION SLASH",
    "aSET MINUSaASTERISK OPERATORaRINGnaBULLETnaSQUARE ROOTaCUBEnaFOURTHnaPROPORTIONAL TO",
    "aINFINITYaRIGHT ANGLEanaMEASUREDnaSPHERICALnaDIVIDESaDOES NOT DIVIDEaPARALLEL TOaNOTo",
    "aLOGICAL ANDbORaINTERSECTIONaUNIONaINTEGRALaDOUBLEnaTRIPLEnaCONTOURnaSURFACEnaVOLUMEn",
    "aCLOCKWISEnbCONTOURnaANTICLOCKWISEoaTHEREFOREaBECAUSEaRATIOaPROPORTIONaDOT MINUSaEXCESS",
    "aGEOMETRIC PROPORTIONaHOMOTHETICaTILDE OPERATORaREVERSED TILDEaINVERTED LAZY SaSINE WAVE",
    "aWREATH PRODUCTaNOT TILDEaMINUSnaASYMPTOTICALLY EQUAL TOaNOTpaAPPROXIMATELYo",
    "bBUT NOT ACTUALLYoaNEITHER APPROXIMATELY NORpaALMOSToaNOTpaALMOST EQUAL ORoaTRIPLE TILDE",
    "aALL EQUAL TOaEQUIVALENTnaGEOMETRICALLYoaDIFFERENCE BETWEENaAPPROACHES THE LIMIT",
    "aGEOMETRICALLY EQUAL TOaAPPROXIMATELY EQUAL TO OR THE IMAGE OF",
    "aIMAGE OF OR APPROXIMATELY EQUAL TOaCOLON EQUALSaEQUALS COLONaRING IN EQUAL TObo",
    "aCORRESPONDSnaESTIMATESaEQUIANGULAR TOaSTAR EQUALSaDELTA EQUAL TOaEQUAL TO BY DEFINITION",
    "aMEASURED BYaQUESTIONED EQUAL TOaNOToaIDENTICALnaNOToaSTRICTLY EQUIVALENTn",
    "aLESS-THAN OR EQUALnaGREATER-THANpaLESS-THAN OVERoaGREATER-THANpaLESS-THAN BUT NOTo",
    "aGREATER-THANqaMUCH LESS-THANbGREATER-THANaBETWEENaNOT EQUIVALENT TObLESS-THANbGREATER-THAN",
    "aNEITHER LESS-THAN NOR EQUAL TObGREATER-THANpaLESS-THAN OR EQUIVALENTnaGREATER-THANp",
    "aNEITHER LESS-THAN NORobGREATER-THANpaLESS-THAN OR GREATER-THANaGREATER-THAN OR LESS-THAN",
    "aNEITHER LESS-THAN NOR GREATER-THANbGREATER-THAN NOR LESS-THANaPRECEDESaSUCCEEDS",
    "aPRECEDES OR EQUAL TOaSUCCEEDSpaPRECEDES OR EQUIVALENTnaSUCCEEDSpaDOES NOT PRECEDEcSUCCEED",
    "aSUBSET OFaSUPERSETnaNOT A SUBSETncSUPERSETnaSUBSET OF OR EQUAL TOaSUPERSETq",
    "aNEITHER A SUBSET OF NORocSUPERSETqaSUBSET OF WITH NOToaSUPERSETraMULTISETbMULTIPLICATION",
    "bUNIONaSQUARE IMAGE OFbORIGINALnbIMAGE OF OR EQUAL TObORIGINALqbCAPbCUPaCIRCLED PLUSbMINUS",
    "bTIMESbDIVISION SLASHbDOT OPERATORbRINGnbASTERISKnbEQUALSbDASHaSQUARED PLUSbMINUSbTIMES",
    "bDOT OPERATORaRIGHT TACKaLEFTnaDOWNnaUPnaASSERTIONaMODELSaTRUEaFORCES",
    "aTRIPLE VERTICAL BAR RIGHT TURNSTILEaDOUBLE VERTICAL BAR DOUBLEoaDOES NOT PROVEaNOT TRUE",
    "aDOES NOT FORCEaNEGATED DOUBLE VERTICAL BAR DOUBLE RIGHT TURNSTILEaPRECEDES UNDER RELATION",
    "aSUCCEEDSoaNORMAL SUBGROUP OFaCONTAINS AS NORMAL SUBGROUPaNORMAL SUBGROUP OF OR EQUAL TO",
    "aCONTAINS AS NORMAL SUBGROUPpaORIGINAL OFaIMAGEnaMULTIMAPaHERMITIAN CONJUGATE MATRIX",
    "aINTERCALATEaXORaNANDaNORaRIGHT ANGLE WITH ARCbTRIANGLEaN-ARY LOGICAL ANDcORbINTERSECTION",
    "bUNIONaDIAMOND OPERATORaDOTnaSTARnaDIVISION TIMESaBOWTIE",
    "aLEFT NORMAL FACTOR SEMIDIRECT PRODUCTaRIGHTqaLEFToaRIGHToaREVERSED TILDE EQUALS",
    "aCURLY LOGICAL ORcANDaDOUBLE SUBSETbSUPERSETbINTERSECTIONbUNIONaPITCHFORK",
    "aEQUAL AND PARALLEL TOaLESS-THAN WITH DOTaGREATER-THANoaVERY MUCH LESS-THANcGREATER-THAN",
    "aLESS-THAN EQUAL TO ORnaGREATER-THAN EQUAL TO OR LESS-THANaqdGREATER-THANdPRECEDESdSUCCEEDS",
    "aDOES NOT PRECEDE OR EQUALcSUCCEEDoaNOT SQUARE IMAGE OF OR EQUAL TOcORIGINALq",
    "aSQUARE IMAGE OF OR NOTobORIGINALraLESS-THAN BUT NOT EQUIVALENTnaGREATER-THANqaPRECEDESq",
    "aSUCCEEDSqaNOT NORMAL SUBGROUP OFaDOES NOT CONTAIN AS NORMAL SUBGROUP",
    "aNOT NORMAL SUBGROUP OF OR EQUAL TOaDOES NOT CONTAIN AS NORMAL SUBGROUP OR EQUAL",
    "aVERTICAL ELLIPSISaMIDLINE HORIZONTALnaUP RIGHT DIAGONALnaDOWNp",
    "aELEMENT OF WITH LONG HORIZONTAL STROKEdVERTICAL BAR AT END OFoaSMALLw",
    "aELEMENT OF WITH DOT ABOVEdOVERBARaSMALLqaELEMENT OF WITH UNDERBARdTWO HORIZONTAL STROKES",
    "aCONTAINS WITH LONG HORIZONTAL STROKEcVERTICAL BAR AT END OFoaSMALLvaCONTAINS WITH OVERBAR",
    "aSMALLpaZ NOTATION BAG MEMBERSHIPaDIAMETER SIGNaELECTRIC ARROWaHOUSEaUP ARROWHEADaDOWNn",
    "aPROJECTIVEaPERSPECTIVEaWAVY LINEaLEFT CEILINGaRIGHTnaLEFT FLOORaRIGHTnaBOTTOM RIGHT CROP",
    "bLEFTnaTOP RIGHTnbLEFTnaREVERSED NOT SIGNaSQUARE LOZENGEaARCaSEGMENTaSECTOR",
    "aTELEPHONE RECORDERaPOSITION INDICATORaVIEWDATA SQUAREaPLACE OF INTEREST SIGNaTURNED NOTn",
    "aWATCHaHOURGLASSaTOP LEFT CORNERbRIGHTnaBOTTOM LEFTnbRIGHTnaTOP HALF INTEGRALaBOTTOMoaFROWN",
    "aSMILEaUP ARROWHEAD BETWEEN TWO HORIZONTAL BARSaOPTION KEYaERASE TO THE RIGHT",
    "aX IN A RECTANGLE BOXaKEYBOARDaLEFT-POINTING ANGLE BRACKETaRIGHT-POINTINGoaERASE TO THE LEFT",
    "aBENZENE RINGaCYLINDRICITYaALL AROUND-PROFILEaSYMMETRYaTOTAL RUNOUTaDIMENSION ORIGIN",
    "aCONICAL TAPERaSLOPEaCOUNTERBOREaCOUNTERSINKaAPL FUNCTIONAL SYMBOL I-BEAMdSQUISH QUAD",
    "dQUAD EQUALeDIVIDEeDIAMONDeJOTeCIRCLEdCIRCLE STILEeJOTdSLASH BARdBACKSLASHndQUAD SLASH",
    "eBACKSLASHeLESS-THANeGREATER-THANdLEFTWARDS VANEdRIGHTWARDSndQUAD LEFTWARDS ARROW",
    "eRIGHTWARDSndCIRCLE BACKSLASHdDOWN TACK UNDERBARdDELTA STILEdQUAD DOWN CARETeDELTA",
    "dDOWN TACK JOTdUPWARDS VANEdQUAD UPWARDS ARROWdUP TACK OVERBARdDEL STILEdQUAD UP CARETeDEL",
    "dUP TACK JOTdDOWNWARDS VANEdQUAD DOWNWARDS ARROWdQUOTE UNDERBARdDELTAndDIAMONDndJOTndCIRCLEn",
    "dUP SHOE JOTdQUOTE QUADdCIRCLE STARdQUAD COLONdUP TACK DIAERESISdDELndSTARndJOTndCIRCLEn",
    "dDOWN SHOE STILEdLEFTodTILDE DIAERESISdGREATER-THANndCOMMA BARdDEL TILDEdZILDEdSTILE TILDE",
    "dSEMICOLON UNDERBARdQUAD NOT EQUALeQUESTIONdDOWN CARET TILDEdUPodIOTAdRHOdOMEGA",
    "dALPHA UNDERBARdEPSILONndIOTAndOMEGAndALPHAaNOT CHECK MARK",
    "aRIGHT ANGLE WITH DOWNWARDS ZIGZAG ARROWaSHOULDERED OPEN BOXaBELL SYMBOL",
    "aVERTICAL LINE WITH MIDDLE DOTaINSERTION SYMBOLaCONTINUOUS UNDERLINEnaDISCONTINUOUSo",
    "aEMPHASISnaCOMPOSITIONnaWHITE SQUARE WITH CENTRE VERTICAL LINEaENTER SYMBOLaALTERNATIVE KEYn",
    "aHELMnaCIRCLED HORIZONTAL BAR WITH NOTCHbTRIANGLE DOWNaBROKEN CIRCLE WITH NORTHWEST ARROW",
    "aUNDO SYMBOLaMONOSTABLEnaHYSTERESISnaOPEN-CIRCUIT-OUTPUT H-TYPEnbL-TYPEn",
    "aPASSIVE-PULL-DOWN-OUTPUTnaPASSIVE-PULL-UP-OUTPUTnaDIRECT CURRENT SYMBOL FORM TWO",
    "aSOFTWARE-FUNCTION SYMBOLaAPL FUNCTIONAL SYMBOL QUADaDECIMAL SEPARATOR KEY SYMBOL",
    "aPREVIOUS PAGEaNEXTnaPRINT SCREEN SYMBOLaCLEARoaLEFT PARENTHESIS UPPER HOOKcEXTENSION",
    "cLOWER HOOKaRIGHT PARENTHESIS UPPERncEXTENSIONcLOWER HOOKaLEFT SQUARE BRACKET UPPER CORNER",
    "dEXTENSIONdLOWER CORNERaRIGHT SQUARE BRACKET UPPERndEXTENSIONdLOWER CORNER",
    "aLEFT CURLY BRACKET UPPER HOOKdMIDDLE PIECEdLOWER HOOKaCURLY BRACKET EXTENSION",
    "aRIGHT CURLY BRACKET UPPER HOOKdMIDDLE PIECEdLOWER HOOKaINTEGRAL EXTENSIONaHORIZONTAL LINEn",
    "aUPPER LEFT OR LOWER RIGHT CURLY BRACKET SECTIONbRIGHT OR LOWER LEFTpaSUMMATION TOPbBOTTOM",
    "aTOP SQUARE BRACKETaBOTTOModOVER TOP SQUARE BRACKETaRADICAL SYMBOL BOTTOM",
    "aLEFT VERTICAL BOX LINEaRIGHTpaHORIZONTAL SCAN LINE-1cLINE-3cLINE-7cLINE-9",
    "aDENTISTRY SYMBOL LIGHT VERTICAL AND TOP RIGHTfBOTTOMneWITH CIRCLEdDOWN AND HORIZONTALodUPq",
    "dVERTICAL WITH TRIANGLEdDOWN AND HORIZONTALodUPqdVERTICAL AND WAVEdDOWN AND HORIZONTAL WITHn",
    "dUPqdDOWN AND HORIZONTALdUPodVERTICAL AND TOP LEFTfBOTTOMnaSQUARE FOOTaRETURN SYMBOLaEJECTn",
    "aVERTICAL LINE EXTENSIONaMETRICAL BREVEbLONG OVER SHORTbSHORT OVER LONGbLONG OVER TWO SHORTS",
    "bTWO SHORTS OVER LONGdJOINEDbTRISEMEbTETRASEMEbPENTASEMEaEARTH GROUNDaFUSEaTOP PARENTHESIS",
    "aBOTTOMnaTOP CURLY BRACKETaBOTTOMoaTOP TORTOISE SHELLnaBOTTOMpaWHITE TRAPEZIUM",
    "aBENZENE RING WITH CIRCLEaSTRAIGHTNESSaFLATNESSaAC CURRENTaELECTRICAL INTERSECTION",
    "aDECIMAL EXPONENT SYMBOLaBLACK RIGHT-POINTING DOUBLE TRIANGLEbLEFT-POINTINGobUP-POINTINGo",
    "bDOWN-POINTINGobRIGHT-POINTING DOUBLE TRIANGLE WITH VERTICAL BARbLEFT-POINTINGr",
    "bRIGHT-POINTING TRIANGLE WITH DOUBLEoaALARM CLOCKaSTOPWATCHaTIMER CLOCK",
    "aHOURGLASS WITH FLOWING SANDaBLACK MEDIUM LEFT-POINTING TRIANGLEcRIGHT-POINTINGn",
    "cUP-POINTINGncDOWN-POINTINGnaDOUBLE VERTICAL BARaBLACK SQUARE FOR STOPbCIRCLE FOR RECORD",
    "aPOWER SYMBOLbON-OFFnbONnbSLEEPnaOBSERVER EYEnaSYMBOL FOR NULLcSTART OF HEADINGeTEXTcENDo",
    "eTRANSMISSIONcENQUIRYcACKNOWLEDGEcBELLcBACKSPACEcHORIZONTAL TABULATIONcLINE FEED",
    "cVERTICAL TABULATIONcFORM FEEDcCARRIAGE RETURNcSHIFT OUTdINcDATA LINK ESCAPE",
    "cDEVICE CONTROL ONEeTWOeTHREEeFOURcNEGATIVE ACKNOWLEDGEcSYNCHRONOUS IDLE",
    "cEND OF TRANSMISSION BLOCKcCANCELcEND OF MEDIUMcSUBSTITUTEcESCAPEcFILE SEPARATORcGROUPn",
    "cRECORDncUNITncSPACEcDELETEaBLANK SYMBOLaOPEN BOXaSYMBOL FOR NEWLINEcDELETE FORM TWO",
    "cSUBSTITUTEo"]⟩,
  ⟨0x2440, [
    "aOCR HOOKbCHAIRbFORKbINVERTEDnbBELT BUCKLEbBOW TIEbBRANCH BANK IDENTIFICATION",
    "bAMOUNT OF CHECKbDASHbCUSTOMER ACCOUNT NUMBERbDOUBLE BACKSLASH"]⟩,
  ⟨0x2460, [
    "aCIRCLED DIGIT ONEcTWOcTHREEcFOURcFIVEcSIXcSEVENcEIGHTcNINEbNUMBER TENcELEVENcTWELVE",
    "cTHIRTEENcFOURTEENcFIFTEENcSIXTEENcSEVENTEENcEIGHTEENcNINETEENcTWENTY",
    "aPARENTHESIZED DIGIT ONEcTWOcTHREEcFOURcFIVEcSIXcSEVENcEIGHTcNINEbNUMBER TENcELEVENcTWELVE",
    "cTHIRTEENcFOURTEENcFIFTEENcSIXTEENcSEVENTEENcEIGHTEENcNINETEENcTWENTYaDIGIT ONE FULL STOP",
    "bTWOobTHREEobFOURobFIVEobSIXobSEVENobEIGHTobNINEoaNUMBER TENobELEVENobTWELVEobTHIRTEENo",
    "bFOURTEENobFIFTEENobSIXTEENobSEVENTEENobEIGHTEENobNINETEENobTWENTYo",
    "aPARENTHESIZED LATIN SMALL LETTER AeBeCeDeEeFeGeHeIeJeKeLeMeNeOePeQeReSeTeUeVeWeXeYeZ",
    "aCIRCLED LATIN CAPITAL LETTER AeBeCeDeEeFeGeHeIeJeKeLeMeNeOePeQeReSeTeUeVeWeXeYeZ",
    "cSMALL LETTER AeBeCeDeEeFeGeHeIeJeKeLeMeNeOePeQeReSeTeUeVeWeXeYeZbDIGIT ZERO",
    "aNEGATIVE CIRCLED NUMBER ELEVENdTWELVEdTHIRTEENdFOURTEENdFIFTEENdSIXTEENdSEVENTEENdEIGHTEEN",
    "dNINETEENdTWENTYaDOUBLE CIRCLED DIGIT ONEdTWOdTHREEdFOURdFIVEdSIXdSEVENdEIGHTdNINE",
    "cNUMBER TENaNEGATIVE CIRCLED DIGIT ZEROaBOX DRAWINGS LIGHT HORIZONTALcHEAVYncLIGHT VERTICAL",
    "cHEAVYncLIGHT TRIPLE DASH HORIZONTALcHEAVYpcLIGHT TRIPLE DASH VERTICALcHEAVYp",
    "cLIGHT QUADRUPLE DASH HORIZONTALcHEAVYpcLIGHT QUADRUPLE DASH VERTICALcHEAVYp",
    "cLIGHT DOWN AND RIGHTcDOWN LIGHT AND RIGHT HEAVYdHEAVY AND RIGHT LIGHTcHEAVY DOWN AND RIGHT",
    "cLIGHT DOWN AND LEFTcDOWN LIGHT AND LEFT HEAVYdHEAVY AND LEFT LIGHTcHEAVY DOWN AND LEFT",
    "cLIGHT UP AND RIGHTcUP LIGHT AND RIGHT HEAVYdHEAVY AND RIGHT LIGHTcHEAVY UP AND RIGHT",
    "cLIGHT UP AND LEFTcUP LIGHT AND LEFT HEAVYdHEAVY AND LEFT LIGHTcHEAVY UP AND LEFT",
    "cLIGHT VERTICAL AND RIGHTcVERTICAL LIGHT AND RIGHT HEAVYcUP HEAVY AND RIGHT DOWN LIGHT",
    "cDOWN HEAVY AND RIGHT UPncVERTICAL HEAVY AND RIGHTncDOWN LIGHT AND RIGHT UP HEAVY",
    "cUP LIGHT AND RIGHT DOWNncHEAVY VERTICAL AND RIGHTcLIGHT VERTICAL AND LEFT",
    "cVERTICAL LIGHT AND LEFT HEAVYcUP HEAVY AND LEFT DOWN LIGHTcDOWN HEAVY AND LEFT UPn",
    "cVERTICAL HEAVY AND LEFTncDOWN LIGHT AND LEFT UP HEAVYcUP LIGHT AND LEFT DOWNn",
    "cHEAVY VERTICAL AND LEFTcLIGHT DOWN AND HORIZONTALcLEFT HEAVY AND RIGHT DOWN LIGHT",
    "cRIGHT HEAVY AND LEFTocDOWN LIGHT AND HORIZONTAL HEAVYdHEAVY AND HORIZONTAL LIGHT",
    "cRIGHT LIGHT AND LEFT DOWN HEAVYcLEFT LIGHT AND RIGHTocHEAVY DOWN AND HORIZONTALcLIGHT UPo",
    "cLEFT HEAVY AND RIGHT UP LIGHTcRIGHT HEAVY AND LEFTocUP LIGHT AND HORIZONTAL HEAVY",
    "dHEAVY AND HORIZONTAL LIGHTcRIGHT LIGHT AND LEFT UP HEAVYcLEFT LIGHT AND RIGHTo",
    "cHEAVY UP AND HORIZONTALcLIGHT VERTICALocLEFT HEAVY AND RIGHT VERTICAL LIGHT",
    "cRIGHT HEAVY AND LEFTocVERTICAL LIGHT AND HORIZONTAL HEAVY",
    "cUP HEAVY AND DOWN HORIZONTAL LIGHTcDOWN HEAVY AND UPocVERTICAL HEAVY ANDo",
    "cLEFT UP HEAVY AND RIGHT DOWNncRIGHT UP HEAVY AND LEFTocLEFT DOWN HEAVY AND RIGHT UPn",
    "cRIGHT DOWN HEAVY AND LEFTocDOWN LIGHT AND UP HORIZONTAL HEAVYcUP LIGHT AND DOWNo",
    "cRIGHT LIGHT AND LEFT VERTICALncLEFT LIGHT AND RIGHTocHEAVY VERTICAL AND HORIZONTAL",
    "cLIGHT DOUBLE DASHncHEAVYpcLIGHT DOUBLE DASH VERTICALcHEAVYpcDOUBLE HORIZONTALdVERTICAL",
    "cDOWN SINGLE AND RIGHT DOUBLEdDOUBLE AND RIGHT SINGLEcDOUBLE DOWN AND RIGHT",
    "cDOWN SINGLE AND LEFT DOUBLEdDOUBLE AND LEFT SINGLEcDOUBLE DOWN AND LEFT",
    "cUP SINGLE AND RIGHT DOUBLEdDOUBLE AND RIGHT SINGLEcDOUBLE UP AND RIGHT",
    "cUP SINGLE AND LEFT DOUBLEdDOUBLE AND LEFT SINGLEcDOUBLE UP AND LEFT",
    "cVERTICAL SINGLE AND RIGHT DOUBLEdDOUBLE AND RIGHT SINGLEcDOUBLE VERTICAL AND RIGHT",
    "cVERTICAL SINGLE AND LEFT DOUBLEdDOUBLE AND LEFT SINGLEcDOUBLE VERTICAL AND LEFT",
    "cDOWN SINGLE AND HORIZONTAL DOUBLEdDOUBLE AND HORIZONTAL SINGLEcDOUBLE DOWN AND HORIZONTAL",
    "cUP SINGLE AND HORIZONTAL DOUBLEdDOUBLE AND HORIZONTAL SINGLEcDOUBLE UP AND HORIZONTAL",
    "cVERTICAL SINGLE AND HORIZONTAL DOUBLEdDOUBLE AND HORIZONTAL SINGLE",
    "cDOUBLE VERTICAL AND HORIZONTALcLIGHT ARC DOWN AND RIGHTgLEFTeUPogRIGHT",
    "dDIAGONAL UPPER RIGHT TO LOWER LEFTfLEFT TO LOWER RIGHTeCROSSdLEFTdUPdRIGHTdDOWNcHEAVY LEFT",
    "dUPdRIGHTdDOWNcLIGHT LEFT AND HEAVY RIGHTdUP AND HEAVY DOWNcHEAVY LEFT AND LIGHT RIGHT",
    "dUP AND LIGHT DOWNaUPPER HALF BLOCKaLOWER ONE EIGHTHncQUARTERnbTHREE EIGHTHSnbHALFn",
    "bFIVE EIGHTHSnbTHREE QUARTERSnbSEVEN EIGHTHSnaFULLnaLEFT SEVEN EIGHTHSnbTHREE QUARTERSn",
    "bFIVE EIGHTHSnbHALFnbTHREE EIGHTHSnbONE QUARTERncEIGHTHnaRIGHT HALFnaLIGHT SHADEaMEDIUMn",
    "aDARKnaUPPER ONE EIGHTH BLOCKaRIGHTpaQUADRANT LOWER LEFTcRIGHTbUPPER LEFT",
    "dAND LOWER LEFT AND LOWER RIGHTfneUPPER RIGHT AND LOWER LEFTiRIGHTcndAND LOWER LEFT",
    "gAND LOWER RIGHTaBLACK SQUAREaWHITEncWITH ROUNDED CORNERScCONTAINING BLACK SMALL SQUARE",
    "aSQUARE WITH HORIZONTAL FILLcVERTICALncORTHOGONAL CROSSHATCHncUPPER LEFT TO LOWER RIGHTn",
    "dRIGHT TO LOWER LEFTncDIAGONAL CROSSHATCHnaBLACK SMALL SQUAREaWHITEoaBLACK RECTANGLEaWHITEn",
    "aBLACK VERTICALnaWHITEoaBLACK PARALLELOGRAMaWHITEnaBLACK UP-POINTING TRIANGLEaWHITEo",
    "aBLACK UP-POINTING SMALLnaWHITEpaBLACK RIGHT-POINTINGnaWHITEoaBLACK RIGHT-POINTING SMALLn",
    "aWHITEpaBLACK RIGHT-POINTING POINTERaWHITEoaBLACK DOWN-POINTING TRIANGLEaWHITEo",
    "aBLACK DOWN-POINTING SMALLnaWHITEpaBLACK LEFT-POINTINGnaWHITEoaBLACK LEFT-POINTING SMALLn",
    "aWHITEpaBLACK LEFT-POINTING POINTERaWHITEoaBLACK DIAMONDaWHITEn",
    "cCONTAINING BLACK SMALL DIAMONDaFISHEYEaLOZENGEaWHITE CIRCLEaDOTTEDn",
    "aCIRCLE WITH VERTICAL FILLaBULLSEYEaBLACK CIRCLEaCIRCLE WITH LEFT HALF BLACKcRIGHTocLOWERo",
    "cUPPERodRIGHT QUADRANTncALL BUT UPPER LEFToaLEFT HALF BLACK CIRCLEaRIGHTpaINVERSE BULLET",
    "bWHITE CIRCLEaUPPER HALFpaLOWERqaUPPER LEFT QUADRANT CIRCULAR ARCbRIGHTpaLOWERqbLEFTp",
    "aUPPER HALF CIRCLEaLOWERoaBLACK LOWER RIGHT TRIANGLEcLEFTnbUPPERocRIGHTnaWHITE BULLET",
    "aSQUARE WITH LEFT HALF BLACKcRIGHTocUPPER LEFT DIAGONALocLOWER RIGHTp",
    "aWHITE SQUARE WITH VERTICAL BISECTING LINEbUP-POINTING TRIANGLE WITH DOT",
    "aUP-POINTING TRIANGLE WITH LEFT HALF BLACKdRIGHToaLARGE CIRCLE",
    "aWHITE SQUARE WITH UPPER LEFT QUADRANTdLOWERoeRIGHTndUPPERobCIRCLE WITH UPPER LEFTndLOWERo",
    "eRIGHTndUPPERoaUPPER LEFT TRIANGLEbRIGHTnaLOWER LEFTnaWHITE MEDIUM SQUAREaBLACKo",
    "aWHITE MEDIUM SMALLnaBLACKpaLOWER RIGHT TRIANGLEaBLACK SUN WITH RAYSaCLOUDaUMBRELLAaSNOWMAN",
    "aCOMETaBLACK STARaWHITEnaLIGHTNINGaTHUNDERSTORMaSUNaASCENDING NODEaDESCENDINGnaCONJUNCTION",
    "aOPPOSITIONaBLACK TELEPHONEaWHITEnaBALLOT BOXcWITH CHECKdXaSALTIREaUMBRELLA WITH RAIN DROPS",
    "aHOT BEVERAGEaWHITE SHOGI PIECEaBLACKoaSHAMROCKaREVERSED ROTATED FLORAL HEART BULLET",
    "aBLACK LEFT POINTING INDEXbRIGHToaWHITE LEFTobUPobRIGHTobDOWNoaSKULL AND CROSSBONES",
    "aCAUTION SIGNaRADIOACTIVEnaBIOHAZARDnaCADUCEUSaANKHaORTHODOX CROSSaCHI RHOaCROSS OF LORRAINE",
    "cJERUSALEMaSTAR AND CRESCENTaFARSI SYMBOLaADI SHAKTIaHAMMER AND SICKLEaPEACE SYMBOLaYIN YANG",
    "aTRIGRAM FOR HEAVENcLAKEcFIREcTHUNDERcWINDcWATERcMOUNTAINcEARTHaWHEEL OF DHARMA",
    "aWHITE FROWNING FACEbSMILINGnaBLACKoaWHITE SUN WITH RAYSaFIRST QUARTER MOONaLASToaMERCURY",
    "aFEMALE SIGNaEARTHaMALE SIGNaJUPITERaSATURNaURANUSaNEPTUNEaPLUTOaARIESaTAURUSaGEMINIaCANCER",
    "aLEOaVIRGOaLIBRAaSCORPIUSaSAGITTARIUSaCAPRICORNaAQUARIUSaPISCESaWHITE CHESS KINGcQUEENcROOK",
    "cBISHOPcKNIGHTcPAWNaBLACK CHESS KINGcQUEENcROOKcBISHOPcKNIGHTcPAWNbSPADE SUITaWHITE HEARTn",
    "bDIAMONDnaBLACK CLUBnaWHITE SPADEnaBLACK HEARTnbDIAMONDnaWHITE CLUBnaHOT SPRINGS",
    "aQUARTER NOTEaEIGHTHnaBEAMED EIGHTH NOTESbSIXTEENTHnaMUSIC FLAT SIGNbNATURALnbSHARPn",
    "aWEST SYRIAC CROSSaEASToaUNIVERSAL RECYCLING SYMBOLaRECYCLING SYMBOL FOR TYPE-1 PLASTICS",
    "dTYPE-2ndTYPE-3ndTYPE-4ndTYPE-5ndTYPE-6ndTYPE-7ndGENERIC MATERIALS",
    "aBLACK UNIVERSAL RECYCLING SYMBOLaRECYCLED PAPERnaPARTIALLY-RECYCLEDoaPERMANENT PAPER SIGN",
    "aWHEELCHAIR SYMBOLaDIE FACE-1+++++aWHITE CIRCLE WITH DOT RIGHTdTWO DOTS",
    "aBLACK CIRCLE WITH WHITE DOT RIGHTdTWO WHITE DOTSaMONOGRAM FOR YANGcYIN",
    "aDIGRAM FOR GREATER YANGcLESSER YINdYANGcGREATER YINaWHITE FLAGaBLACKnaHAMMER AND PICK",
    "aANCHORaCROSSED SWORDSaSTAFF OF AESCULAPIUSaSCALESaALEMBICaFLOWERaGEARaSTAFF OF HERMES",
    "aATOM SYMBOLaFLEUR-DE-LISaOUTLINED WHITE STARaTHREE LINES CONVERGING RIGHTdLEFTaWARNING SIGN",
    "aHIGH VOLTAGEnaDOUBLED FEMALEnbMALEnaINTERLOCKED FEMALE ANDoaMALE AND FEMALEnbWITH STROKEn",
    "dAND MALE AND FEMALEnaVERTICAL MALE WITH STROKEnaHORIZONTALqaMEDIUM WHITE CIRCLEbBLACKn",
    "bSMALL WHITEnaMARRIAGE SYMBOLaDIVORCEnaUNMARRIED PARTNERSHIPnaCOFFINaFUNERAL URNaNEUTER",
    "aCERESaPALLASaJUNOaVESTAaCHIRONaBLACK MOON LILITHaSEXTILEaSEMISEXTILEaQUINCUNX",
    "aSESQUIQUADRATEaSOCCER BALLaBASEBALLaSQUARED KEYaWHITE DRAUGHTS MANcKINGaBLACK DRAUGHTS MAN",
    "cKINGaSNOWMAN WITHOUT SNOWaSUN BEHIND CLOUDaRAINaBLACK SNOWMANaTHUNDER CLOUD AND RAIN",
    "aTURNED WHITE SHOGI PIECEbBLACKoaWHITE DIAMOND IN SQUAREaCROSSING LANESaDISABLED CAR",
    "aOPHIUCHUSaPICKaCAR SLIDINGaHELMET WITH WHITE CROSSaCIRCLED CROSSING LANESaCHAINSaNO ENTRY",
    "aALTERNATE ONE-WAY LEFT WAY TRAFFICaBLACK TWO-WAYpaWHITEqaBLACK LEFT LANE MERGEaWHITEp",
    "aDRIVE SLOW SIGNaHEAVY WHITE DOWN-POINTING TRIANGLEaLEFT CLOSED ENTRYaSQUARED SALTIRE",
    "aFALLING DIAGONAL IN WHITE CIRCLE IN BLACK SQUAREaBLACK TRUCKaRESTRICTED LEFT ENTRY-1+",
    "aASTRONOMICAL SYMBOL FOR URANUSaHEAVY CIRCLE WITH STROKE AND TWO DOTS ABOVEaPENTAGRAM",
    "aRIGHT-HANDED INTERLACEDnaLEFT-HANDEDoaINVERTEDnaBLACK CROSS ON SHIELDaSHINTO SHRINEaCHURCH",
    "aCASTLEaHISTORIC SITEaGEAR WITHOUT HUBbWITH HANDLESaMAP SYMBOL FOR LIGHTHOUSEaMOUNTAIN",
    "aUMBRELLA ON GROUNDaFOUNTAINaFLAG IN HOLEaFERRYaSAILBOATaSQUARE FOUR CORNERSaSKIERaICE SKATE",
    "aPERSON WITH BALLaTENTaJAPANESE BANK SYMBOLaHEADSTONE GRAVEYARDnaFUEL PUMP",
    "aCUP ON BLACK SQUAREaWHITE FLAG WITH HORIZONTAL MIDDLE BLACK STRIPEaBLACK SAFETY SCISSORS",
    "aUPPER BLADEnaBLACKnaLOWER BLADEnaWHITEnbHEAVY CHECK MARKaTELEPHONE LOCATION SIGNaTAPE DRIVE",
    "aAIRPLANEaENVELOPEaRAISED FISTbHANDaVICTORYnaWRITINGnaLOWER RIGHT PENCILanaUPPER RIGHTn",
    "aWHITE NIBaBLACKnaCHECK MARKaHEAVYoaMULTIPLICATION XaHEAVYoaBALLOTnaHEAVYo",
    "aOUTLINED GREEK CROSSaHEAVYoaOPEN CENTREnaHEAVYpaLATINnaSHADOWED WHITEoaOUTLINEDoaMALTESEn",
    "aSTAR OF DAVIDaFOUR TEARDROP-SPOKED ASTERISKbBALLOON-SPOKEDnaHEAVYpaFOUR CLUB-SPOKEDn",
    "aBLACK FOUR POINTED STARaWHITEpaSPARKLESaSTRESS OUTLINED WHITE STARaCIRCLEDo",
    "aOPEN CENTRE BLACKnaBLACK CENTRE WHITEnaOUTLINED BLACKnaHEAVYpaPINWHEELnaSHADOWED WHITEn",
    "aHEAVY ASTERISKaOPEN CENTREnaEIGHT SPOKEDnbPOINTED BLACK STARcPINWHEELnaSIX POINTED BLACKn",
    "aEIGHT POINTED RECTILINEARoaHEAVYraTWELVE POINTEDoaSIXTEEN POINTED ASTERISKaTEARDROP-SPOKEDn",
    "aOPEN CENTREoaHEAVYoaSIX PETALLED BLACK AND WHITE FLORETTEaBLACKnaWHITEn",
    "aEIGHT PETALLED OUTLINED BLACKnaCIRCLED OPEN CENTRE EIGHT POINTED STAR",
    "aHEAVY TEARDROP-SPOKED PINWHEEL ASTERISKaSNOWFLAKEaTIGHT TRIFOLIATEnaHEAVY CHEVRONnaSPARKLE",
    "aHEAVYnaBALLOON-SPOKED ASTERISKaEIGHT TEARDROP-SPOKED PROPELLERnaHEAVYqaCROSS MARK",
    "aSHADOWED WHITE CIRCLEaNEGATIVE SQUARED CROSS MARKaLOWER RIGHT DROP-SHADOWED WHITE SQUARE",
    "aUPPERqaLOWER RIGHT SHADOWEDoaUPPERqaBLACK QUESTION MARK ORNAMENTaWHITEpbEXCLAMATIONo",
    "aBLACK DIAMOND MINUS WHITE XaHEAVY EXCLAMATION MARK SYMBOLaLIGHT VERTICAL BARaMEDIUMoaHEAVYo",
    "bSINGLE TURNED COMMA QUOTATION MARK ORNAMENTcqbDOUBLE TURNEDqcqbLOW SINGLEqcDOUBLEq",
    "aCURVED STEM PARAGRAPH SIGNnaHEAVY EXCLAMATION MARKnbHEARTpbBLACK HEART",
    "aROTATED HEAVY BLACK HEART BULLETaFLORAL HEARTaROTATED FLORAL HEART BULLET",
    "aMEDIUM LEFT PARENTHESIS ORNAMENTbRIGHTobFLATTENED LEFTocRIGHTobLEFT-POINTING ANGLE BRACKETn",
    "bRIGHT-POINTINGpaHEAVY LEFT-POINTING ANGLE QUOTATION MARKnbRIGHT-POINTINGq",
    "bLEFT-POINTING ANGLE BRACKETnbRIGHT-POINTINGpaLIGHT LEFT TORTOISE SHELLobRIGHTq",
    "aMEDIUM LEFT CURLYobRIGHTpaDINGBAT NEGATIVE CIRCLED DIGIT ONEeTWOeTHREEeFOUReFIVEeSIXeSEVEN",
    "eEIGHTeNINEdNUMBER TENbCIRCLED SANS-SERIF DIGIT ONEeTWOeTHREEeFOUReFIVEeSIXeSEVENeEIGHTeNINE",
    "dNUMBER TENbNEGATIVE CIRCLED SANS-SERIF DIGIT ONEfTWOfTHREEfFOURfFIVEfSIXfSEVENfEIGHTfNINE",
    "eNUMBER TENaHEAVY WIDE-HEADED RIGHTWARDS ARROWbPLUS SIGNbMINUSnbDIVISIONnbSOUTH EAST ARROW",
    "bRIGHTWARDSnbNORTH EASTnaDRAFTING POINT RIGHTWARDSnaHEAVY ROUND-TIPPEDoaTRIANGLE-HEADEDo",
    "aHEAVYpaDASHEDpaHEAVYqaBLACKoaTHREE-D TOP-LIGHTED RIGHTWARDS ARROWHEADbBOTTOM-LIGHTEDo",
    "aBLACKoaHEAVY BLACK CURVED DOWNWARDS AND RIGHTWARDS ARROWdUPWARDSpaSQUAT BLACKo",
    "aHEAVY CONCAVE-POINTEDpaRIGHT-SHADED WHITEoaLEFT-SHADEDpaBACK-TILTED SHADOWEDpaFRONT-TILTEDq",
    "aHEAVY LOWER RIGHT-SHADOWEDpbUPPERqaNOTCHED LOWERqaCURLY LOOP",
    "aNOTCHED UPPER RIGHT-SHADOWED WHITE RIGHTWARDS ARROWaCIRCLED HEAVYpaWHITE-FEATHEREDo",
    "aBLACK-FEATHERED SOUTH EASTnbRIGHTWARDSnbNORTH EASTnaHEAVY BLACK-FEATHERED SOUTHo",
    "cRIGHTWARDSncNORTH EASTnaTEARDROP-BARBED RIGHTWARDSnaHEAVY TEARDROP-SHANKEDoaWEDGE-TAILEDo",
    "aHEAVYpaOPEN-OUTLINEDoaDOUBLE CURLY LOOPaTHREE DIMENSIONAL ANGLE",
    "aWHITE TRIANGLE CONTAINING SMALL WHITE TRIANGLEaPERPENDICULARaOPEN SUBSETbSUPERSET",
    "aLEFT S-SHAPED BAG DELIMITERaRIGHTpaOR WITH DOT INSIDEaREVERSE SOLIDUS PRECEDING SUBSET",
    "aSUPERSET PRECEDING SOLIDUSaVERTICAL BAR WITH HORIZONTAL STROKEaMATHEMATICAL RISING DIAGONAL",
    "aLONG DIVISIONaMATHEMATICAL FALLING DIAGONALaSQUARED LOGICAL ANDcOR",
    "aWHITE DIAMOND WITH CENTRED DOTaAND WITHnaELEMENT OF OPENING UPWARDS",
    "aLOWER RIGHT CORNER WITH DOTaUPPER LEFTpaLEFT OUTER JOINaRIGHToaFULLoaLARGE UP TACKbDOWNn",
    "aLEFT AND RIGHT DOUBLE TURNSTILEdTACKbMULTIMAPaLONG RIGHT TACKbLEFTn",
    "aUP TACK WITH CIRCLE ABOVEaLOZENGE DIVIDED BY HORIZONTAL RULEaWHITE CONCAVE-SIDED DIAMOND",
    "dWITH LEFTWARDS TICKeRIGHTWARDSnbSQUARE WITH LEFTWARDSndRIGHTWARDSn",
    "aMATHEMATICAL LEFT WHITE SQUARE BRACKETbRIGHTpbLEFT ANGLEnbRIGHTobLEFT DOUBLEobRIGHTp",
    "bLEFT WHITE TORTOISE SHELLnbRIGHTqbLEFT FLATTENED PARENTHESISbRIGHToaUPWARDS QUADRUPLE ARROW",
    "aDOWNWARDSoaANTICLOCKWISE GAPPED CIRCLEnaCLOCKWISEpaRIGHT ARROW WITH CIRCLED PLUS",
    "aLONG LEFTWARDS ARROWbRIGHTWARDSnbLEFT RIGHTnbLEFTWARDS DOUBLEnbRIGHTWARDSobLEFT RIGHTo",
    "bLEFTWARDS ARROW FROM BARbRIGHTWARDSpbLEFTWARDS DOUBLEpbRIGHTWARDSqcSQUIGGLE ARROW",
    "aBRAILLE PATTERN BLANKcDOTS-1+cDOTS-12cDOTS-3cDOTS-13cDOTS-23cDOTS-123cDOTS-4cDOTS-14",
    "cDOTS-24cDOTS-124cDOTS-34cDOTS-134cDOTS-234cDOTS-1234cDOTS-5cDOTS-15cDOTS-25cDOTS-125",
    "cDOTS-35cDOTS-135cDOTS-235cDOTS-1235cDOTS-45cDOTS-145cDOTS-245cDOTS-1245cDOTS-345cDOTS-1345",
    "cDOTS-2345cDOTS-12345cDOTS-6cDOTS-16cDOTS-26cDOTS-126cDOTS-36cDOTS-136cDOTS-236cDOTS-1236",
    "cDOTS-46cDOTS-146cDOTS-246cDOTS-1246cDOTS-346cDOTS-1346cDOTS-2346cDOTS-12346cDOTS-56",
    "cDOTS-156cDOTS-256cDOTS-1256cDOTS-356cDOTS-1356cDOTS-2356cDOTS-12356cDOTS-456cDOTS-1456",
    "cDOTS-2456cDOTS-12456cDOTS-3456cDOTS-13456cDOTS-23456cDOTS-123456cDOTS-7cDOTS-17cDOTS-27",
    "cDOTS-127cDOTS-37cDOTS-137cDOTS-237cDOTS-1237cDOTS-47cDOTS-147cDOTS-247cDOTS-1247cDOTS-347",
    "cDOTS-1347cDOTS-2347cDOTS-12347cDOTS-57cDOTS-157cDOTS-257cDOTS-1257cDOTS-357cDOTS-1357",
    "cDOTS-2357cDOTS-12357cDOTS-457cDOTS-1457cDOTS-2457cDOTS-12457cDOTS-3457cDOTS-13457",
    "cDOTS-23457cDOTS-123457cDOTS-67cDOTS-167cDOTS-267cDOTS-1267cDOTS-367cDOTS-1367cDOTS-2367",
    "cDOTS-12367cDOTS-467cDOTS-1467cDOTS-2467cDOTS-12467cDOTS-3467cDOTS-13467cDOTS-23467",
    "cDOTS-123467cDOTS-567cDOTS-1567cDOTS-2567cDOTS-12567cDOTS-3567cDOTS-13567cDOTS-23567",
    "cDOTS-123567cDOTS-4567cDOTS-14567cDOTS-24567cDOTS-124567cDOTS-34567cDOTS-134567cDOTS-234567",
    "cDOTS-1234567cDOTS-8cDOTS-18cDOTS-28cDOTS-128cDOTS-38cDOTS-138cDOTS-238cDOTS-1238cDOTS-48",
    "cDOTS-148cDOTS-248cDOTS-1248cDOTS-348cDOTS-1348cDOTS-2348cDOTS-12348cDOTS-58cDOTS-158",
    "cDOTS-258cDOTS-1258cDOTS-358cDOTS-1358cDOTS-2358cDOTS-12358cDOTS-458cDOTS-1458cDOTS-2458",
    "cDOTS-12458cDOTS-3458cDOTS-13458cDOTS-23458cDOTS-123458cDOTS-68cDOTS-168cDOTS-268cDOTS-1268",
    "cDOTS-368cDOTS-1368cDOTS-2368cDOTS-12368cDOTS-468cDOTS-1468cDOTS-2468cDOTS-12468cDOTS-3468",
    "cDOTS-13468cDOTS-23468cDOTS-123468cDOTS-568cDOTS-1568cDOTS-2568cDOTS-12568cDOTS-3568",
    "cDOTS-13568cDOTS-23568cDOTS-123568cDOTS-4568cDOTS-14568cDOTS-24568cDOTS-124568cDOTS-34568",
    "cDOTS-134568cDOTS-234568cDOTS-1234568cDOTS-78cDOTS-178cDOTS-278cDOTS-1278cDOTS-378cDOTS-1378",
    "cDOTS-2378cDOTS-12378cDOTS-478cDOTS-1478cDOTS-2478cDOTS-12478cDOTS-3478cDOTS-13478",
    "cDOTS-23478cDOTS-123478cDOTS-578cDOTS-1578cDOTS-2578cDOTS-12578cDOTS-3578cDOTS-13578",
    "cDOTS-23578cDOTS-123578cDOTS-4578cDOTS-14578cDOTS-24578cDOTS-124578cDOTS-34578cDOTS-134578",
    "cDOTS-234578cDOTS-1234578cDOTS-678cDOTS-1678cDOTS-2678cDOTS-12678cDOTS-3678cDOTS-13678",
    "cDOTS-23678cDOTS-123678cDOTS-4678cDOTS-14678cDOTS-24678cDOTS-124678cDOTS-34678cDOTS-134678",
    "cDOTS-234678cDOTS-1234678cDOTS-5678cDOTS-15678cDOTS-25678cDOTS-125678cDOTS-35678cDOTS-135678",
    "cDOTS-235678cDOTS-1235678cDOTS-45678cDOTS-145678cDOTS-245678cDOTS-1245678cDOTS-345678",
    "cDOTS-1345678cDOTS-2345678cDOTS-12345678aRIGHTWARDS TWO-HEADED ARROW WITH VERTICAL STROKE",
    "eDOUBLEoaLEFTWARDS DOUBLE ARROW WITHoaRIGHTWARDSraLEFT RIGHTr",
    "aRIGHTWARDS TWO-HEADED ARROW FROM BARaLEFTWARDS DOUBLEpaRIGHTWARDSq",
    "aDOWNWARDS ARROW WITH HORIZONTAL STROKEaUPWARDSqbTRIPLE ARROWaDOWNWARDSo",
    "aLEFTWARDS DOUBLE DASHnaRIGHTWARDSpaLEFTWARDS TRIPLEoaRIGHTWARDSpbTWO-HEADEDp",
    "bARROW WITH DOTTED STEMaUPWARDS ARROW TO BARaDOWNWARDSp",
    "aRIGHTWARDS ARROW WITH TAIL WITH VERTICAL STROKEfDOUBLEobTWO-HEADED ARROW WITH TAIL",
    "fWITH VERTICAL STROKEgDOUBLEoaLEFTWARDS ARROW-TAILaRIGHTWARDSnaLEFTWARDS DOUBLEnaRIGHTWARDSo",
    "aLEFTWARDS ARROW TO BLACK DIAMONDaRIGHTWARDSqaLEFTWARDS ARROW FROM BARpaRIGHTWARDSs",
    "aNORTH WEST AND SOUTH EAST ARROWbEAST AND SOUTH WESTnbWEST ARROW WITH HOOKbEASTpaSOUTHq",
    "bWESTpaNORTH WEST ARROW AND NORTH EAST ARROWbEAST ARROW AND SOUTHo",
    "aSOUTH EAST ARROW AND SOUTH WESTnbWEST ARROW AND NORTHo",
    "aRISING DIAGONAL CROSSING FALLING DIAGONALaFALLING DIAGONAL CROSSING RISINGn",
    "aSOUTH EAST ARROW CROSSING NORTH EAST ARROWaNORTH EAST ARROW CROSSING SOUTHo",
    "aFALLING DIAGONAL CROSSING NORTHoaRISING DIAGONAL CROSSING SOUTHo",
    "aNORTH EAST ARROW CROSSING NORTH WESTnbWEST ARROW CROSSING NORTH EASTn",
    "aWAVE ARROW POINTING DIRECTLY RIGHTaARROW POINTING RIGHTWARDS THEN CURVING UPWARDSfDOWNWARDS",
    "cDOWNWARDS THEN CURVING LEFTWARDSfRIGHTWARDSaRIGHT-SIDE ARC CLOCKWISE ARROW",
    "aLEFT-SIDE ARC ANTICLOCKWISEnaTOPpaBOTTOMpaTOP ARC CLOCKWISE ARROW WITH MINUS",
    "cANTICLOCKWISE ARROW WITH PLUSaLOWER RIGHT SEMICIRCULAR CLOCKWISE ARROW",
    "bLEFT SEMICIRCULAR ANTICLOCKWISEnaANTICLOCKWISE CLOSED CIRCLEnaCLOCKWISEp",
    "aRIGHTWARDS ARROW ABOVE SHORT LEFTWARDSnaLEFTWARDS ARROW ABOVE SHORT RIGHTWARDSn",
    "aSHORT RIGHTWARDS ARROW ABOVE LEFTWARDSnaRIGHTWARDS ARROW WITH PLUS BELOWaLEFTWARDSq",
    "aRIGHTWARDS ARROW THROUGH XaLEFT RIGHT ARROW THROUGH SMALL CIRCLE",
    "aUPWARDS TWO-HEADED ARROW FROMoaLEFT BARB UP RIGHT BARB DOWN HARPOONcDOWN RIGHT BARB UPn",
    "aUP BARB RIGHT DOWN BARB LEFTncLEFT DOWN BARB RIGHTnaLEFT BARB UP RIGHT BARB UPn",
    "aUP BARB RIGHT DOWN BARB RIGHTnaLEFT BARB DOWN RIGHT BARB DOWNnaUP BARB LEFT DOWN BARB LEFTn",
    "aLEFTWARDS HARPOON WITH BARB UP TO BARaRIGHTWARDSsaUPWARDS HARPOON WITH BARB RIGHTo",
    "aDOWNWARDSsaLEFTWARDS HARPOON WITH BARB DOWNoaRIGHTWARDSsaUPWARDS HARPOON WITH BARB LEFTo",
    "aDOWNWARDSsaLEFTWARDS HARPOON WITH BARB UP FROMnaRIGHTWARDSs",
    "aUPWARDS HARPOON WITH BARB RIGHToaDOWNWARDSsaLEFTWARDS HARPOON WITH BARB DOWNoaRIGHTWARDSs",
    "aUPWARDS HARPOON WITH BARB LEFToaDOWNWARDSs",
    "aLEFTWARDS HARPOON WITH BARB UP ABOVE LEFTWARDS HARPOON WITH BARB DOWN",
    "aUPWARDS HARPOON WITH BARB LEFT BESIDE UPWARDS HARPOON WITH BARB RIGHT",
    "aRIGHTWARDS HARPOON WITH BARB UP ABOVE RIGHTWARDS HARPOON WITH BARB DOWN",
    "aDOWNWARDS HARPOON WITH BARB LEFT BESIDE DOWNWARDS HARPOON WITH BARB RIGHT",
    "aLEFTWARDS HARPOON WITH BARB UP ABOVE RIGHTWARDS HARPOON WITH BARB UP",
    "eDOWN ABOVE RIGHTWARDS HARPOON WITH BARB DOWN",
    "aRIGHTWARDS HARPOON WITH BARB UP ABOVE LEFTWARDS HARPOON WITH BARB UP",
    "eDOWN ABOVE LEFTWARDS HARPOON WITH BARB DOWNaLEFTWARDS HARPOON WITH BARB UP ABOVE LONG DASH",
    "eDOWN BELOWoaRIGHTWARDS HARPOON WITH BARB UP ABOVEoeDOWN BELOWo",
    "aUPWARDS HARPOON WITH BARB LEFT BESIDE DOWNWARDS HARPOON WITH BARB RIGHT",
    "aDOWNWARDS HARPOON WITH BARB LEFT BESIDE UPWARDSqaRIGHT DOUBLE ARROW WITH ROUNDED HEAD",
    "aEQUALS SIGN ABOVE RIGHTWARDS ARROWaTILDE OPERATORpaLEFTWARDS ARROW ABOVE TILDE OPERATOR",
    "aRIGHTWARDSqdALMOST EQUAL TOaLESS-THAN ABOVE LEFTWARDS ARROW",
    "aLEFTWARDS ARROW THROUGH LESS-THANaGREATER-THAN ABOVE RIGHTWARDS ARROWaSUBSETp",
    "aLEFTWARDS ARROW THROUGH SUBSETaSUPERSET ABOVE LEFTWARDS ARROWaLEFT FISH TAILaRIGHToaUPo",
    "aDOWNoaTRIPLE VERTICAL BAR DELIMITERaZ NOTATION SPOTcTYPE COLONaLEFT WHITE CURLY BRACKET",
    "aRIGHTpaLEFT WHITE PARENTHESISaRIGHToaZ NOTATION LEFT IMAGE BRACKETcRIGHTocLEFT BINDINGn",
    "cRIGHToaLEFT SQUARE BRACKET WITH UNDERBARaRIGHTqaLEFT SQUARE BRACKET WITH TICK IN TOP CORNER",
    "aRIGHT SQUARE BRACKET WITH TICK IN BOTTOMnaLEFTtaRIGHT SQUARE BRACKET WITH TICK IN TOPn",
    "aLEFT ANGLE BRACKET WITH DOTaRIGHTqaLEFT ARC LESS-THAN BRACKETaRIGHT ARC GREATER-THANn",
    "aDOUBLE LEFTpbRIGHT ARC LESS-THANnaLEFT BLACK TORTOISE SHELLnaRIGHTqaDOTTED FENCE",
    "aVERTICAL ZIGZAG LINEaMEASURED ANGLE OPENING LEFTaRIGHT ANGLE VARIANT WITH SQUARE",
    "aMEASURED RIGHT ANGLE WITH DOTaANGLE WITH S INSIDEaACUTE ANGLEaSPHERICAL ANGLE OPENING LEFT",
    "dUPaTURNED ANGLEaREVERSEDnaANGLE WITH UNDERBARaREVERSEDpaOBLIQUE ANGLE OPENING UPdDOWN",
    "aMEASURED ANGLE WITH OPEN ARM ENDING IN ARROW POINTING UP AND RIGHTlLEFTjDOWN AND RIGHTlLEFT",
    "jRIGHT AND UPjLEFTojRIGHT AND DOWNjLEFToaREVERSED EMPTY SETaEMPTY SET WITH OVERBAR",
    "dSMALL CIRCLE ABOVEdRIGHT ARROWndLEFToaCIRCLE WITH HORIZONTAL BARaCIRCLED VERTICALnbPARALLEL",
    "bREVERSE SOLIDUSbPERPENDICULAR",
    "aCIRCLE DIVIDED BY HORIZONTAL BAR AND TOP HALF DIVIDED BY VERTICAL BARbWITH SUPERIMPOSED X",
    "aCIRCLED ANTICLOCKWISE-ROTATED DIVISION SIGNaUP ARROW THROUGH CIRCLEaCIRCLED WHITE BULLETbn",
    "bLESS-THANbGREATER-THANaCIRCLE WITH SMALL CIRCLE TO THE RIGHTcTWO HORIZONTAL STROKESp",
    "aSQUARED RISING DIAGONAL SLASHbFALLINGobASTERISKbSMALL CIRCLEbSQUAREaTWO JOINED SQUARES",
    "aTRIANGLE WITH DOT ABOVEcUNDERBARaS IN TRIANGLEaTRIANGLE WITH SERIFS AT BOTTOM",
    "aRIGHT TRIANGLE ABOVE LEFT TRIANGLEaLEFT TRIANGLE BESIDE VERTICAL BAR",
    "aVERTICAL BAR BESIDE RIGHT TRIANGLEaBOWTIE WITH LEFT HALF BLACKcRIGHToaBLACK BOWTIE",
    "aTIMES WITH LEFT HALF BLACKcRIGHToaWHITE HOURGLASSaBLACKnaLEFT WIGGLY FENCEaRIGHTo",
    "aLEFT DOUBLEoaRIGHTpaINCOMPLETE INFINITYaTIE OVERnaINFINITY NEGATED WITH VERTICAL BAR",
    "aDOUBLE-ENDED MULTIMAPaSQUARE WITH CONTOURED OUTLINEaINCREASES ASaSHUFFLE PRODUCT",
    "aEQUALS SIGN AND SLANTED PARALLELfWITH TILDE ABOVEaIDENTICAL TO AND SLANTED PARALLEL",
    "aGLEICH STARKaTHERMODYNAMICaDOWN-POINTING TRIANGLE WITH LEFT HALF BLACKdRIGHTo",
    "aBLACK DIAMOND WITH DOWN ARROWbLOZENGEaWHITE CIRCLE WITH DOWN ARROWaBLACKq",
    "aERROR-BARRED WHITE SQUAREbBLACKnbWHITE DIAMONDbBLACKnbWHITE CIRCLEbBLACKnaRULE-DELAYED",
    "aREVERSE SOLIDUS OPERATORaSOLIDUS WITH OVERBARaREVERSE SOLIDUS WITH HORIZONTAL STROKE",
    "aBIG SOLIDUSbREVERSEnaDOUBLE PLUSaTRIPLEnaLEFT-POINTING CURVED ANGLE BRACKETaRIGHT-POINTINGp",
    "aTINYaMINYaN-ARY CIRCLED DOT OPERATORcPLUSncTIMESnbUNION OPERATOR WITH DOTePLUS",
    "bSQUARE INTERSECTION OPERATORcUNIONnaTWO LOGICAL ANDncORnaN-ARY TIMESnaMODULO TWO SUM",
    "aSUMMATION WITH INTEGRALaQUADRUPLE INTEGRAL OPERATORaFINITE PART INTEGRAL",
    "aINTEGRAL WITH DOUBLE STROKEbAVERAGE WITH SLASHaCIRCULATION FUNCTION",
    "aANTICLOCKWISE INTEGRATIONaLINE INTEGRATION WITH RECTANGULAR PATH AROUND POLEdSEMICIRCULARp",
    "cNOT INCLUDING THEnaINTEGRAL AROUND A POINT OPERATORaQUATERNION INTEGRALn",
    "aINTEGRAL WITH LEFTWARDS ARROW WITH HOOKcTIMES SIGNcINTERSECTIONcUNIONcOVERBARcUNDERBARaJOIN",
    "aLARGE LEFT TRIANGLE OPERATORaZ NOTATION SCHEMA COMPOSITIONdPIPINGdPROJECTION",
    "aPLUS SIGN WITH SMALL CIRCLE ABOVEdCIRCUMFLEX ACCENTndTILDEndDOT BELOWdTILDEndSUBSCRIPT TWO",
    "dBLACK TRIANGLEaMINUS SIGN WITH COMMA ABOVEdDOT BELOWdFALLING DOTSdRISINGn",
    "aPLUS SIGN IN LEFT HALF CIRCLEdRIGHToaVECTOR OR CROSS PRODUCT",
    "aMULTIPLICATION SIGN WITH DOT ABOVEdUNDERBARaSEMIDIRECT PRODUCT WITH BOTTOM CLOSED",
    "aSMASH PRODUCTaMULTIPLICATION SIGN IN LEFT HALF CIRCLEdRIGHTo",
    "aCIRCLED MULTIPLICATION SIGN WITH CIRCUMFLEX ACCENTaMULTIPLICATION SIGN IN DOUBLE CIRCLE",
    "aCIRCLED DIVISION SIGNaPLUS SIGN IN TRIANGLEaMINUSpaMULTIPLICATIONpaINTERIOR PRODUCT",
    "aRIGHTHANDoaZ NOTATION RELATIONAL COMPOSITIONaAMALGAMATION OR COPRODUCT",
    "aINTERSECTION WITH DOTaUNION WITH MINUS SIGNcOVERBARaINTERSECTIONocLOGICAL AND",
    "aUNION WITH LOGICAL ORbABOVE INTERSECTIONaINTERSECTION ABOVE UNION",
    "aUNION ABOVE BAR ABOVE INTERSECTIONaINTERSECTION ABOVE BAR ABOVE UNION",
    "aUNION BESIDE AND JOINED WITHnaINTERSECTION BESIDE AND JOINED WITH INTERSECTION",
    "aCLOSED UNION WITH SERIFSbINTERSECTIONoaDOUBLE SQUARE INTERSECTIONcUNION",
    "aCLOSED UNION WITH SERIFS AND SMASH PRODUCTaLOGICAL AND WITH DOT ABOVEbORp",
    "aDOUBLE LOGICAL ANDcORaTWO INTERSECTING LOGICAL ANDdORaSLOPING LARGEncAND",
    "aLOGICAL OR OVERLAPPING LOGICALnbAND WITH MIDDLE STEMbORpbAND WITH HORIZONTAL DASHbORp",
    "bAND WITH DOUBLE OVERBARdUNDERBARdDOUBLEnaSMALL VEE WITHnaLOGICAL OR WITH DOUBLE OVERBAR",
    "eUNDERBARaZ NOTATION DOMAIN ANTIRESTRICTIONcRANGEnaEQUALS SIGN WITH DOT BELOW",
    "aIDENTICAL WITH DOT ABOVEaTRIPLE HORIZONTAL BAR WITH DOUBLE VERTICAL STROKEeTRIPLEo",
    "aTILDE OPERATOR WITH DOT ABOVEdRISING DOTSaSIMILAR MINUS SIMILARaCONGRUENT WITH DOT ABOVE",
    "aEQUALS WITH ASTERISKaALMOST EQUAL TO WITH CIRCUMFLEX ACCENTaAPPROXIMATELY EQUAL OR EQUAL TO",
    "aEQUALS SIGN ABOVE PLUS SIGNaPLUS SIGN ABOVE EQUALSnaEQUALS SIGN ABOVE TILDE OPERATOR",
    "aDOUBLE COLON EQUALaTWO CONSECUTIVE EQUALS SIGNSaTHREEp",
    "aEQUALS SIGN WITH TWO DOTS ABOVE AND TWO DOTS BELOWaEQUIVALENT WITH FOUR DOTS ABOVE",
    "aLESS-THAN WITH CIRCLE INSIDEaGREATER-THANpaLESS-THAN WITH QUESTION MARK ABOVEaGREATER-THANq",
    "aLESS-THAN OR SLANTED EQUAL TOaGREATER-THANqaLESS-THAN OR SLANTED EQUAL TO WITH DOT INSIDE",
    "aGREATER-THANtaLESS-THAN OR SLANTED EQUAL TO WITH DOT ABOVEaGREATER-THANt",
    "aLESS-THAN OR SLANTED EQUAL TO WITH DOT ABOVE RIGHT",
    "aGREATER-THAN OR SLANTED EQUAL TO WITH DOT ABOVE LEFTaLESS-THAN OR APPROXIMATEaGREATER-THANo",
    "aLESS-THAN AND SINGLE-LINE NOT EQUAL TOaGREATER-THANraLESS-THAN AND NOT APPROXIMATE",
    "aGREATER-THANpaLESS-THAN ABOVE DOUBLE-LINE EQUAL ABOVE GREATER-THAN",
    "aGREATER-THAN ABOVE DOUBLE-LINE EQUAL ABOVE LESS-THANaLESS-THAN ABOVE SIMILAR OR EQUAL",
    "aGREATER-THANqaLESS-THAN ABOVE SIMILAR ABOVE GREATER-THAN",
    "aGREATER-THAN ABOVE SIMILAR ABOVE LESS-THAN",
    "aLESS-THAN ABOVE GREATER-THAN ABOVE DOUBLE-LINE EQUALaGREATER-THAN ABOVE LESS-THANp",
    "aLESS-THAN ABOVE SLANTED EQUAL ABOVE GREATER-THAN ABOVE SLANTEDn",
    "aGREATER-THAN ABOVE SLANTED EQUAL ABOVE LESS-THANpaSLANTED EQUAL TO OR LESS-THAN",
    "eGREATER-THANeLESS-THAN WITH DOT INSIDEeGREATER-THANpaDOUBLE-LINE EQUAL TO OR LESS-THAN",
    "eGREATER-THANbSLANTED EQUAL TO OR LESS-THANfGREATER-THANaSIMILAR OR LESS-THANcGREATER-THAN",
    "bABOVE LESS-THAN ABOVE EQUALS SIGNcGREATER-THANpaDOUBLE NESTED LESS-THANcGREATER-THAN",
    "cLESS-THAN WITH UNDERBARaGREATER-THAN OVERLAPPING LESS-THANbBESIDEn",
    "aLESS-THAN CLOSED BY CURVEaGREATER-THANpaLESS-THAN CLOSED BY CURVE ABOVE SLANTED EQUAL",
    "aGREATER-THANsaSMALLER THANaLARGERnaSMALLER THAN OR EQUAL TOaLARGERq",
    "aEQUALS SIGN WITH BUMPY ABOVEaPRECEDES ABOVE SINGLE-LINE EQUALS SIGNaSUCCEEDSq",
    "aPRECEDES ABOVE SINGLE-LINE NOT EQUAL TOaSUCCEEDSraPRECEDES ABOVE EQUALS SIGNaSUCCEEDSp",
    "aPRECEDES ABOVE NOT EQUAL TOaSUCCEEDSqaPRECEDES ABOVE ALMOSToaSUCCEEDSqaPRECEDES ABOVE NOTp",
    "aSUCCEEDSraDOUBLE PRECEDESbSUCCEEDSaSUBSET WITH DOTaSUPERSEToaSUBSET WITH PLUS SIGN BELOW",
    "aSUPERSETqaSUBSET WITH MULTIPLICATIONoaSUPERSETqaSUBSET OF OR EQUAL TO WITH DOT ABOVE",
    "aSUPERSETtaSUBSET OF ABOVE EQUALS SIGNaSUPERSETqaSUBSET OF ABOVE TILDE OPERATORaSUPERSETq",
    "aSUBSET OF ABOVE ALMOST EQUAL TOaSUPERSETraSUBSET OF ABOVE NOToaSUPERSETr",
    "aSQUARE LEFT OPEN BOX OPERATORbRIGHTpaCLOSED SUBSETbSUPERSETbSUBSET OR EQUAL TObSUPERSETp",
    "aSUBSET ABOVE SUPERSETaSUPERSET ABOVE SUBSETaSUBSEToaSUPERSET ABOVE SUPERSETbBESIDE SUBSET",
    "cAND JOINED BY DASH WITHnaELEMENT OF OPENING DOWNWARDSaPITCHFORK WITH TEE TOP",
    "aTRANSVERSAL INTERSECTIONaFORKINGaNONFORKINGaSHORT LEFT TACKbDOWNnbUPnaPERPENDICULAR WITH S",
    "aVERTICAL BAR TRIPLE RIGHT TURNSTILEaDOUBLE VERTICAL BAR LEFTnaVERTICAL BAR DOUBLEoaDOUBLEr",
    "aLONG DASH FROM LEFT MEMBER OF DOUBLE VERTICALaSHORT DOWN TACK WITH OVERBAR",
    "bUP TACK WITH UNDERBARdABOVE SHORT DOWN TACKaDOUBLEobUPnbSTROKE NOT SIGNaREVERSEDq",
    "aDOES NOT DIVIDE WITH REVERSED NEGATION SLASHaVERTICAL LINE WITH CIRCLE ABOVEeBELOW",
    "aDOWN TACKpaPARALLEL WITH HORIZONTAL STROKEcTILDE OPERATOR",
    "aTRIPLE VERTICAL BAR BINARY RELATIONdWITH HORIZONTAL STROKEbCOLON OPERATORbNESTED LESS-THAN",
    "cGREATER-THANaDOUBLE-LINE SLANTED LESS-THAN OR EQUAL TOcGREATER-THANp",
    "aTRIPLE SOLIDUS BINARY RELATIONaLARGE TRIPLE VERTICAL BAR OPERATORaDOUBLE SOLIDUSn",
    "aWHITE VERTICAL BARaN-ARYpaNORTH EAST WHITE ARROWbWESToaSOUTH EASTobWESToaLEFT RIGHTo",
    "aLEFTWARDS BLACKnaUPWARDSoaDOWNWARDSoaNORTH EASTobWESToaSOUTH EASTobWESToaLEFT RIGHTo",
    "aUP DOWNoaRIGHTWARDS ARROW WITH TIP DOWNWARDSeUPWARDSaLEFTWARDS ARROW WITH TIP DOWNWARDS",
    "eUPWARDSaSQUARE WITH TOP HALF BLACKcBOTTOMocUPPER RIGHT DIAGONALocLOWER LEFTp",
    "aDIAMOND WITH LEFTocRIGHTocTOPocBOTTOMoaDOTTED SQUAREaBLACK LARGEnaWHITEoaBLACK VERY SMALLn",
    "aWHITEpaBLACK PENTAGONaWHITEnbHEXAGONaBLACKnaHORIZONTALoaBLACK LARGE CIRCLEbMEDIUM DIAMOND",
    "aWHITEoaBLACK MEDIUM LOZENGEaWHITEoaBLACK SMALL DIAMONDcLOZENGEaWHITEo",
    "aBLACK HORIZONTAL ELLIPSEaWHITEoaBLACK VERTICALnaWHITEoaLEFT ARROW WITH SMALL CIRCLE",
    "aTHREE LEFTWARDS ARROWSaLEFT ARROW WITH CIRCLED PLUSaLONG LEFTWARDS SQUIGGLE ARROW",
    "aLEFTWARDS TWO-HEADED ARROW WITH VERTICAL STROKEeDOUBLEodFROM BARcTRIPLE DASH ARROW",
    "bARROW WITH DOTTED STEMdTAIL WITH VERTICAL STROKEfDOUBLEobTWO-HEADED ARROW WITH TAIL",
    "fWITH VERTICAL STROKEgDOUBLEobARROW THROUGH XaWAVE ARROW POINTING DIRECTLY LEFT",
    "aEQUALS SIGN ABOVE LEFTWARDS ARROWaREVERSE TILDE OPERATORp",
    "aLEFTWARDS ARROW ABOVE REVERSE ALMOST EQUAL TOaRIGHTWARDS ARROW THROUGH GREATER-THAN",
    "dSUPERSETaLEFTWARDS QUADRUPLE ARROWaRIGHTWARDSoaREVERSE TILDE OPERATOR ABOVE RIGHTWARDSn",
    "aRIGHTWARDS ARROW ABOVE REVERSE ALMOST EQUAL TOaTILDE OPERATOR ABOVE LEFTWARDS ARROW",
    "aLEFTWARDS ARROW ABOVE ALMOST EQUAL TOdREVERSE TILDE OPERATORaRIGHTWARDSr",
    "aDOWNWARDS TRIANGLE-HEADED ZIGZAG ARROWaSHORT SLANTED NORTHnbBACKSLANTED SOUTHn",
    "aWHITE MEDIUM STARaBLACK SMALLnaWHITEoaBLACK RIGHT-POINTING PENTAGONaWHITEo",
    "aHEAVY LARGE CIRCLEbOVAL WITH OVAL INSIDEbCIRCLE WITH CIRCLEncbCIRCLED SALTIRE",
    "aSLANTED NORTH ARROW WITH HOOKED HEADaBACKSLANTED SOUTH ARROW WITH HOOKED TAIL",
    "aSLANTED NORTH ARROW WITH HORIZONTALnaBACKSLANTED SOUTHq",
    "aBENT ARROW POINTING DOWNWARDS THEN NORTH EASTaSHORTtaLEFTWARDS TRIANGLE-HEADED ARROW",
    "aUPWARDSoaRIGHTWARDSoaDOWNWARDSoaLEFT RIGHToaUP DOWNoaNORTH WESTobEASToaSOUTHpbWESTo",
    "aLEFTWARDS TRIANGLE-HEADED DASHEDnaUPWARDSpaRIGHTWARDSpaDOWNWARDSp",
    "aCLOCKWISE TRIANGLE-HEADED OPEN CIRCLEnaANTICLOCKWISEq",
    "aLEFTWARDS TRIANGLE-HEADED ARROW TO BARaUPWARDSqaRIGHTWARDSqaDOWNWARDSq__aNORTH WESTqbEASTq",
    "aSOUTHrbWESTqaLEFTWARDS TRIANGLE-HEADED ARROW WITH DOUBLE HORIZONTAL STROKEaUPWARDSs",
    "aRIGHTWARDSsaDOWNWARDSsaHORIZONTAL TAB KEYaVERTICALo",
    "aLEFTWARDS TRIANGLE-HEADED ARROW OVER RIGHTWARDS TRIANGLE-HEADED ARROW",
    "aUPWARDS TRIANGLE-HEADED ARROW LEFTWARDS OF DOWNWARDSo",
    "aRIGHTWARDS TRIANGLE-HEADED ARROW OVER LEFTWARDSo",
    "aDOWNWARDS TRIANGLE-HEADED ARROW LEFTWARDS OF UPWARDSo",
    "aLEFTWARDS TRIANGLE-HEADED PAIRED ARROWSaUPWARDSpaRIGHTWARDSpaDOWNWARDSp",
    "aLEFTWARDS BLACK CIRCLED WHITE ARROWaUPWARDSqaRIGHTWARDSqaDOWNWARDSq",
    "aANTICLOCKWISE TRIANGLE-HEADED RIGHT U-SHAPEDncBOTTOMocLEFTocTOPoaRETURN LEFTbRIGHT",
    "aNEWLINE LEFTbRIGHTaFOUR CORNER ARROWS CIRCLING ANTICLOCKWISEaRIGHTWARDS BLACK ARROW_",
    "aSYMBOL FOR TYPE A ELECTRONICSaTHREE-D TOP-LIGHTED LEFTWARDS EQUILATERAL ARROWHEAD",
    "bRIGHT-LIGHTED UPWARDSobTOP-LIGHTED RIGHTWARDSobLEFT-LIGHTED DOWNWARDSoaBLACK LEFTWARDSo",
    "bUPWARDSobRIGHTWARDSobDOWNWARDSoaDOWNWARDS TRIANGLE-HEADED ARROW WITH LONG TIP LEFTWARDS",
    "gRIGHTWARDSaUPWARDS TRIANGLE-HEADED ARROW WITH LONG TIP LEFTWARDSgRIGHTWARDS",
    "aLEFTWARDS TRIANGLE-HEADED ARROW WITH LONG TIP UPWARDSaRIGHTWARDSs",
    "aLEFTWARDS TRIANGLE-HEADED ARROW WITH LONG TIP DOWNWARDSaRIGHTWARDSs",
    "aBLACK CURVED DOWNWARDS AND LEFTWARDS ARROWeRIGHTWARDSncUPWARDS AND LEFTWARDSneRIGHTWARDSn",
    "cLEFTWARDS AND UPWARDSncRIGHTWARDSpcLEFTWARDS AND DOWNWARDSncRIGHTWARDSp",
    "aRIBBON ARROW DOWN LEFTdRIGHTcUP LEFTdRIGHTcLEFT UPcRIGHTncLEFT DOWNcRIGHTn",
    "aUPWARDS WHITE ARROW FROM BAR WITH HORIZONTAL BARaUP ARROWHEAD IN A RECTANGLE BOX",
    "aOVERLAPPING WHITE SQUAREScAND BLACKnboaBALLOT BOX WITH LIGHT XaCIRCLEDnbBOLDn",
    "aBLACK SQUARE CENTREDbDIAMONDnaTURNED BLACK PENTAGONaHORIZONTAL BLACK OCTAGONao",
    "bMEDIUM UP-POINTING TRIANGLE CENTREDcDOWN-POINTINGocLEFT-POINTINGocRIGHT-POINTINGo",
    "aNEPTUNE FORM TWOaTOP HALF BLACK CIRCLEaBOTTOMpaLIGHT FOUR POINTED BLACK CUSPaROTATEDr",
    "aWHITE FOUR POINTEDnaROTATEDqaSQUARE POSITION INDICATORaUNCERTAINTY SIGNaGROUP MARK",
    "aPLUTO FORM TWOcTHREEcFOURcFIVEaTRANSPLUTOaPROSERPINAaASTRAEAaHYGIEAaPHOLUSaNESSUS",
    "aWHITE MOON SELENAaBLACK DIAMOND ON CROSSaTRUE LIGHT MOON ARTAaCUPIDOaHADESaZEUSaKRONOS",
    "aAPOLLONaADMETOSaVULCANUSaPOSEIDONaLEFT HALF BLACK STARaRIGHTpaSTAR WITH LEFT HALF BLACK",
    "cRIGHToaLEFTWARDS TWO-HEADED ARROW WITH TRIANGLE ARROWHEADSaUPWARDSraRIGHTWARDSraDOWNWARDSr",
    "aERIS FORM ONEcTWOaSEDNAaRUSSIAN ASTROLOGICAL SYMBOL VIGINTILEdNOVILEdQUINTILEdBINOVILE",
    "dSENTAGONdTREDECILEaEQUALS SIGN WITH INFINITY BELOWaUNITED SYMBOLaSEPARATEDnaDOUBLEDn",
    "aPASSEDnaREVERSED RIGHT ANGLEaHELLSCHREIBER PAUSE SYMBOLaGLAGOLITIC CAPITAL LETTER AZUdBUKY",
    "dVEDEdGLAGOLIdDOBROdYESTUdZHIVETEdDZELOdZEMLJAdIZHEdINITIALndIdDJERVIdKAKOdLJUDIJEdMYSLITE",
    "dNASHIdONUdPOKOJIdRITSIdSLOVOdTVRIDOdUKUdFRITUdHERUdOTUdPEdSHTAdTSIdCHRIVIdSHAdYERUdYERI",
    "dYATIdSPIDERY HAdYUdSMALL YUSfWITH TAILdYOdIOTATED SMALL YUSdBIGndIOTATEDodFITAdIZHITSA",
    "dSHTAPICdTROKUTASTI AdLATINATE MYSLITEdCAUDATE CHRIVIbSMALL LETTER AZUdBUKYdVEDEdGLAGOLI",
    "dDOBROdYESTUdZHIVETEdDZELOdZEMLJAdIZHEdINITIALndIdDJERVIdKAKOdLJUDIJEdMYSLITEdNASHIdONU",
    "dPOKOJIdRITSIdSLOVOdTVRIDOdUKUdFRITUdHERUdOTUdPEdSHTAdTSIdCHRIVIdSHAdYERUdYERIdYATI",
    "dSPIDERY HAdYUdSMALL YUSfWITH TAILdYOdIOTATED SMALL YUSdBIGndIOTATEDodFITAdIZHITSAdSHTAPIC",
    "dTROKUTASTI AdLATINATE MYSLITEdCAUDATE CHRIVIaLATIN CAPITAL LETTER L WITH DOUBLE BARbSMALLr",
    "bCAPITAL LETTER L WITH MIDDLE TILDEdP WITH STROKEdR WITH TAILbSMALL LETTER A WITH STROKE",
    "dT WITH DIAGONALnbCAPITAL LETTER H WITH DESCENDERbSMALLqbCAPITAL LETTER KobSMALLq",
    "bCAPITAL LETTER ZobSMALLqbCAPITAL LETTER ALPHAdM WITH HOOKdTURNED AeALPHA",
    "bSMALL LETTER V WITH RIGHT HOOKbCAPITAL LETTER W WITHnbSMALLqdV WITH CURL",
    "bCAPITAL LETTER HALF HbSMALLpdTAILLESS PHIdE WITH NOTCHdTURNED R WITH TAIL",
    "dO WITH LOW RING INSIDEbLETTER SMALL CAPITAL TURNED EbSUBSCRIPT SMALL LETTER J",
    "aMODIFIER LETTER CAPITAL VaLATIN CAPITAL LETTER S WITH SWASH TAILdZp",
    "aCOPTIC CAPITAL LETTER ALFAbSMALLobCAPITAL LETTER VIDAbSMALLobCAPITAL LETTER GAMMAbSMALLo",
    "bCAPITAL LETTER DALDAbSMALLobCAPITAL LETTER EIEbSMALLobCAPITAL LETTER SOUbSMALLo",
    "bCAPITAL LETTER ZATAbSMALLobCAPITAL LETTER HATEbSMALLobCAPITAL LETTER THETHEbSMALLo",
    "bCAPITAL LETTER IAUDAbSMALLobCAPITAL LETTER KAPAbSMALLobCAPITAL LETTER LAULAbSMALLo",
    "bCAPITAL LETTER MIbSMALLobCAPITAL LETTER NIbSMALLobCAPITAL LETTER KSIbSMALLo",
    "bCAPITAL LETTER ObSMALLobCAPITAL LETTER PIbSMALLobCAPITAL LETTER RObSMALLo",
    "bCAPITAL LETTER SIMAbSMALLobCAPITAL LETTER TAUbSMALLobCAPITAL LETTER UAbSMALLo",
    "bCAPITAL LETTER FIbSMALLobCAPITAL LETTER KHIbSMALLobCAPITAL LETTER PSIbSMALLo",
    "bCAPITAL LETTER OOUbSMALLobCAPITAL LETTER DIALECT-P ALEFbSMALLp",
    "bCAPITAL LETTER OLD COPTIC AINbSMALLqbCAPITAL LETTER CRYPTOGRAMMIC EIEbSMALLp",
    "bCAPITAL LETTER DIALECT-P KAPAbSMALLpbCAPITAL LETTER DIALECT-P NIbSMALLp",
    "bCAPITAL LETTER CRYPTOGRAMMICnbSMALLpbCAPITAL LETTER OLD COPTIC OOUbSMALLq",
    "bCAPITAL LETTER SAMPIbSMALLobCAPITAL LETTER CROSSED SHEIbSMALLpbCAPITAL LETTER OLD COPTICn",
    "bSMALLqbCAPITAL LETTER OLD COPTIC ESHbSMALLqbCAPITAL LETTER AKHMIMIC KHEIbSMALLp",
    "bCAPITAL LETTER DIALECT-P HORIbSMALLpbCAPITAL LETTER OLD COPTICnbSMALLq",
    "bCAPITAL LETTER OLD COPTIC HAbSMALLqbCAPITAL LETTER L-SHAPEDnbSMALLp",
    "bCAPITAL LETTER OLD COPTIC HEIbSMALLqbCAPITAL LETTER OLD COPTIC HATbSMALLq",
    "bCAPITAL LETTER OLD COPTIC GANGIAbSMALLqbCAPITAL LETTER OLD COPTIC DJAbSMALLq",
    "bCAPITAL LETTER OLD COPTIC SHIMAbSMALLqbCAPITAL LETTER OLD NUBIANnbSMALLq",
    "bCAPITAL LETTER OLD NUBIAN NGIbSMALLqbCAPITAL LETTER OLD NUBIAN NYIbSMALLq",
    "bCAPITAL LETTER OLD NUBIAN WAUbSMALLqbSYMBOL KAIcMI ROcPIncSTAUROScTAU ROcKHIncSHIMA SIMA",
    "bCAPITAL LETTER CRYPTOGRAMMIC SHEIbSMALLpbCAPITAL LETTER CRYPTOGRAMMIC GANGIAbSMALLp",
    "bCOMBINING NI ABOVEcSPIRITUS ASPERdLENISbCAPITAL LETTER BOHAIRIC KHEIbSMALLp"]⟩]

end FormDialogue.Unicode
